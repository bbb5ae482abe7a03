/-
The service starts at most once, whatever else its threads do, also in callbacks of the policy:

* `Starter`: the programs that start the service any number of times, mark it as failed, shut it
  down and bootstrap it;
* `startConduct`: who claimed the start publishes it next, and who published it tells the policy
  next; `heeds_startUp`, `Starter.heeds`: all programs keep to that;
* `Progress`: how far the only start is, with the place that is at it; `Progress.step`: every step
  of a run keeps it so;
* `starts_once`: who claims, what a call of `startUp` did that returned, and what becomes of the
  state.
-/
import ExternalCompiler.Proofs.Bootstrap.Course
import ExternalCompiler.Proofs.Callbacks
import ExternalCompiler.Startup

namespace ExternalCompiler

/-! ### What belongs to a start -/

/-- The action may belong to the start of a service: to claim it, to store a state other than failed
and shut down, or to tell the policy. -/
def Action.isOfStart : Action → Bool
  | .access .claimStartup | .call .startupCompleted => true
  | .access (.storeState st) => st != .failed && st != .shutDown
  | _ => false

namespace Event

/-- The start of the service is claimed, with success. -/
def claims : Event → Bool
  | ⟨_, .access .claimStartup, true, _⟩ => true
  | _ => false

/-- The service is said to be initialized. -/
def publishes : Event → Bool
  | ⟨_, .access (.storeState .initialized), _, _⟩ => true
  | _ => false

/-- The policy is told that startup is over. -/
def tells : Event → Bool
  | ⟨_, .call .startupCompleted, _, _⟩ => true
  | _ => false

lemma claims_of_not_isOfStart {e : Event} (h : e.action.isOfStart = false) :
    e.claims = false := by
  obtain ⟨t, a, x, s⟩ := e
  rcases a with a | p | c
  · cases a <;> first | rfl | cases h
  · rfl
  · rfl

lemma tells_of_not_isOfStart {e : Event} (h : e.action.isOfStart = false) : e.tells = false := by
  obtain ⟨t, a, x, s⟩ := e
  rcases a with a | p | c
  · cases a <;> rfl
  · rfl
  · cases c <;> first | rfl | cases h

end Event

/-- A program that starts the service any number of times and bootstraps it any number of times,
with any methods and with brokers that do not start it; it may mark the service as failed or shut it
down at any moment, and leaves its start alone otherwise. -/
inductive Starter (c : Config) : Routine Unit → Prop
  | done : Starter c (.done ())
  | more : Starter c .more
  | act {a : Action} {next : a.Answer → Routine Unit} (ha : a.isOfStart = false)
      (hnext : ∀ x, Starter c (next x)) : Starter c (.act a next)
  | start {k : Bool → Routine Unit} (hk : ∀ b, Starter c (k b)) :
      Starter c ((Routine.startUp c).bind k)
  | boot {polls : Nat} {cancellable : Bool} {methods : List Method} {broker : Broker}
      {k : Except ServiceError (Option BootstrapReport) → Routine Unit}
      (hbroker : broker.Only (·.isOfStart = false)) (hk : ∀ x, Starter c (k x)) :
      Starter c ((Routine.bootstrap polls c cancellable methods broker).bind k)

lemma Action.isOfStart_of_isWatch {a : Action} (h : a.isWatch = true) : a.isOfStart = false := by
  cases h using isWatch_cases <;> rfl

lemma Action.isOfStart_of_isBracket {a : Action} (h : a.isBracket = true) :
    a.isOfStart = false := by
  cases h using isBracket_cases <;> rfl

/-- What does not belong to a start leaves the state alone, or says that the service failed or was
shut down. -/
lemma state_of_not_isOfStart {a : Action} {t : ThreadId} {s s' : Shared} {x : a.Answer}
    (h : a.isOfStart = false) (heff : Effect t s a x s') :
    s'.service.state = s.service.state ∨ s'.service.state = .failed ∨
      s'.service.state = .shutDown := by
  by_cases hwrites : a.writesState = true
  · rcases a with a | p | c
    · cases a with
      | storeState st =>
          obtain ⟨-, rfl⟩ := effect_access.mp heff
          cases st <;> first | exact .inr (.inl rfl) | exact .inr (.inr rfl) | cases h
      | claimStartup => cases h
      | _ => cases hwrites
    · cases hwrites
    · cases hwrites
  · rw [Bool.not_eq_true] at hwrites
    exact .inl (keeps_state hwrites _ _ _ _ heff)

/-! ### The conduct of a start -/

/-- How far the routine at a place is with a start: it is at none, it has just claimed one, or it
has just published one. -/
inductive Phase
  | idle
  | claimed
  | published
deriving DecidableEq

/-- Only a service that the configuration selects is claimed; whoever claimed the start publishes it
next, and then tells the policy. -/
def startConduct (c : Config) : Conduct Phase where
  after
    | _, .access .claimStartup, (won : Bool) => if won then .claimed else .idle
    | .claimed, .access (.storeState .initialized), _ => .published
    | _, _, _ => .idle
  asks
    | .idle, a => a.isOfStart = false ∨ a = .access .claimStartup ∧ c.selectsExternalCompiler = true
    | .claimed, a => a = .access (.storeState .initialized)
    | .published, a => a = .call .startupCompleted

section Conduct

variable {c : Config} {es : List Event}

/-- What does not belong to a start may be done by who is at none. -/
lemma startConduct_of_not_isOfStart {a : Action} (h : a.isOfStart = false) :
    (startConduct c).asks .idle a ∧ ∀ x, (startConduct c).after .idle a x = .idle := by
  refine ⟨.inl h, fun x => ?_⟩
  rcases a with a | p | c
  · cases a with
    | claimStartup => cases h
    | storeState st => cases st <;> rfl
    | _ => rfl
  · rfl
  · rfl

lemma claimed_of_after {k : Phase} {e : Event}
    (h : (startConduct c).after k e.action e.answer = .claimed) : e.claims = true := by
  obtain ⟨t, a, x, s⟩ := e
  rcases a with a | p | q
  · cases a with
    | claimStartup => cases x <;> first | rfl | cases h
    | storeState st => cases k <;> cases st <;> cases h
    | _ => cases k <;> cases h
  · cases k <;> cases h
  · cases k <;> cases h

lemma published_of_after {k : Phase} {e : Event}
    (h : (startConduct c).after k e.action e.answer = .published) :
    k = .claimed ∧ e.publishes = true := by
  obtain ⟨t, a, x, s⟩ := e
  rcases a with a | p | q
  · cases a with
    | claimStartup => cases x <;> cases h
    | storeState st => cases k <;> cases st <;> first | exact ⟨rfl, rfl⟩ | cases h
    | _ => cases k <;> cases h
  · cases k <;> cases h
  · cases k <;> cases h

/-- Who has just claimed a start did that last. -/
lemma exists_of_run_claimed (h : (startConduct c).run .idle es = .claimed) :
    ∃ l e, es = l ++ [e] ∧ e.claims = true := by
  rcases List.eq_nil_or_concat' es with rfl | ⟨l, e, rfl⟩
  · cases h
  · rw [Conduct.run_append] at h
    exact ⟨l, e, rfl, claimed_of_after h⟩

/-- Who has just published a start claimed it right before. -/
lemma exists_of_run_published (h : (startConduct c).run .idle es = .published) :
    ∃ l e e', es = l ++ [e, e'] ∧ e.claims = true ∧ e'.publishes = true := by
  rcases List.eq_nil_or_concat' es with rfl | ⟨l, e', rfl⟩
  · cases h
  · rw [Conduct.run_append] at h
    obtain ⟨hclaimed, hpublishes⟩ := published_of_after h
    obtain ⟨l, e, rfl, hclaims⟩ := exists_of_run_claimed hclaimed
    exact ⟨l, e, e', by simp, hclaims, hpublishes⟩

namespace Routine

lemma heeds_startUp (c : Config) :
    (startUp c).Heeds (startConduct c) .idle fun _ k => k = .idle := by
  rw [startUp]
  split_ifs with hselects
  · refine ⟨.inr ⟨rfl, hselects⟩, fun won => ?_⟩
    cases won with
    | false => rfl
    | true => exact ⟨rfl, fun _ => ⟨rfl, fun _ => rfl⟩⟩
  · rfl

/-- What does not belong to a start may always be done. -/
lemma heeds_of_not_isOfStart {α : Type} {r : Routine α} (hr : r.Only (·.isOfStart = false)) :
    r.Heeds (startConduct c) .idle fun _ k => k = .idle := by
  induction r with
  | done a => rfl
  | act a next ih =>
      obtain ⟨hasks, hafter⟩ := startConduct_of_not_isOfStart hr.1
      refine ⟨hasks, fun x => ?_⟩
      rw [hafter]
      exact ih x (hr.2 x)
  | more => trivial

end Routine

/-- Every program ends a start that it claimed. -/
lemma Starter.heeds {r : Routine Unit} (h : Starter c r) :
    r.Heeds (startConduct c) .idle fun _ k => k = .idle := by
  induction h with
  | done => rfl
  | more => trivial
  | act ha _ ih =>
      obtain ⟨hasks, hafter⟩ := startConduct_of_not_isOfStart ha
      refine ⟨hasks, fun x => ?_⟩
      rw [hafter]
      exact ih x
  | start _ ih =>
      refine (Routine.heeds_startUp c).bind fun b k hk => ?_
      subst hk
      exact ih b
  | boot hbroker _ ih =>
      have honly := Routine.only_bootstrap (fun _ => Action.isOfStart_of_isWatch)
        (fun _ => Action.isOfStart_of_isBracket) hbroker
      refine (Routine.heeds_of_not_isOfStart (honly _ _ _ _)).bind fun x k hk => ?_
      subst hk
      exact ih x

end Conduct

/-- Nothing that the conduct of a start allows makes a service uninitialized. -/
lemma uninitialized_of_asks {c : Config} {k : Phase} {a : Action} {t : ThreadId} {s s' : Shared}
    {x : a.Answer} (hasks : (startConduct c).asks k a) (heff : Effect t s a x s')
    (hst : s'.service.state = .uninitialized) : s.service.state = .uninitialized := by
  cases k with
  | idle =>
      rcases hasks with hfree | ⟨rfl, -⟩
      · rcases state_of_not_isOfStart hfree heff with h | h | h
        · exact h.symm.trans hst
        · simp [h] at hst
        · simp [h] at hst
      · by_contra hne
        obtain ⟨-, rfl⟩ := effect_access.mp heff
        simp only [Access.perform, hne, if_false] at hst
  | claimed =>
      obtain rfl : a = .access (.storeState .initialized) := hasks
      obtain ⟨-, rfl⟩ := effect_access.mp heff
      cases hst
  | published =>
      obtain rfl : a = .call .startupCompleted := hasks
      obtain rfl : s' = s := heff
      exact hst

/-! ### The only start -/

/-- How far the start of the service is, by what the routine at each place is at, how often the
start was claimed, how often the policy was told, and the state of the service: nobody has claimed
it, one place has, one place has published it, or the policy was told. -/
inductive Progress (κ : Place → Phase) : Nat → Nat → ServiceState → Prop
  | waiting {st : ServiceState} (hidle : ∀ p, κ p = .idle)
      (hst : st ≠ .initializing ∧ st ≠ .initialized) : Progress κ 0 0 st
  | claimed {st : ServiceState} {p : Place} (hp : κ p = .claimed)
      (hothers : ∀ q, q ≠ p → κ q = .idle) (hst : st ≠ .uninitialized) : Progress κ 1 0 st
  | published {st : ServiceState} {p : Place} (hp : κ p = .published)
      (hothers : ∀ q, q ≠ p → κ q = .idle) (hst : st ≠ .uninitialized ∧ st ≠ .initializing) :
      Progress κ 1 0 st
  | told {st : ServiceState} (hidle : ∀ p, κ p = .idle)
      (hst : st ≠ .uninitialized ∧ st ≠ .initializing) : Progress κ 1 1 st

namespace Progress

variable {κ : Place → Phase} {n m : Nat} {st st' : ServiceState} {p q : Place}

/-- A service may fail and be shut down at any moment. -/
lemma mono (h : Progress κ n m st) (hst : st' = st ∨ st' = .failed ∨ st' = .shutDown) :
    Progress κ n m st' := by
  obtain rfl | hst := hst
  · exact h
  · have hclosed : st' ≠ .uninitialized ∧ st' ≠ .initializing ∧ st' ≠ .initialized := by
      rcases hst with rfl | rfl <;> decide
    cases h with
    | waiting hidle => exact .waiting hidle hclosed.2
    | claimed hp hothers => exact .claimed hp hothers hclosed.1
    | published hp hothers => exact .published hp hothers ⟨hclosed.1, hclosed.2.1⟩
    | told hidle => exact .told hidle ⟨hclosed.1, hclosed.2.1⟩

/-- The start was claimed at most once, and the policy was told at most once. -/
lemma bounds (h : Progress κ n m st) : n ≤ 1 ∧ m ≤ n := by
  cases h <;> decide

/-- Nobody is at a start of a service that is not initialized. -/
lemma of_uninitialized (h : Progress κ n m .uninitialized) :
    n = 0 ∧ m = 0 ∧ ∀ p, κ p = .idle := by
  cases h with
  | waiting hidle => exact ⟨rfl, rfl, hidle⟩
  | claimed _ _ hst => exact absurd rfl hst
  | published _ _ hst => exact absurd rfl hst.1
  | told _ hst => exact absurd rfl hst.1

/-- A service is initializing only while a place has claimed its start and not published it. -/
lemma of_initializing (h : Progress κ n m .initializing) : ∃ p, κ p = .claimed := by
  cases h with
  | waiting _ hst => exact absurd rfl hst.1
  | claimed hp _ _ => exact ⟨_, hp⟩
  | published _ _ hst => exact absurd rfl hst.2
  | told _ hst => exact absurd rfl hst.2

/-- A start that nobody claimed has no consequences. -/
lemma of_unclaimed (h : Progress κ 0 m st) : m = 0 ∧ st ≠ .initializing ∧ st ≠ .initialized := by
  cases h with
  | waiting _ hst => exact ⟨rfl, hst⟩

/-- Only a start that was claimed once and that nobody has told the policy of is being claimed. -/
lemma of_claimed (h : Progress κ n m st) (hp : κ p = .claimed) :
    n = 1 ∧ m = 0 ∧ ∀ q, q ≠ p → κ q = .idle := by
  cases h with
  | waiting hidle => simp [hidle p] at hp
  | @claimed _ q hq hothers =>
      by_cases hpq : p = q
      · exact ⟨rfl, rfl, hpq ▸ hothers⟩
      · simp [hothers p hpq] at hp
  | @published _ q hq hothers =>
      by_cases hpq : p = q
      · simp [hpq, hq] at hp
      · simp [hothers p hpq] at hp
  | told hidle => simp [hidle p] at hp

lemma of_published (h : Progress κ n m st) (hp : κ p = .published) :
    n = 1 ∧ m = 0 ∧ (∀ q, q ≠ p → κ q = .idle) ∧ st ≠ .uninitialized ∧ st ≠ .initializing := by
  cases h with
  | waiting hidle => simp [hidle p] at hp
  | @claimed _ q hq hothers =>
      by_cases hpq : p = q
      · simp [hpq, hq] at hp
      · simp [hothers p hpq] at hp
  | @published _ q hq hothers hst =>
      by_cases hpq : p = q
      · exact ⟨rfl, rfl, hpq ▸ hothers, hst⟩
      · simp [hothers p hpq] at hp
  | told hidle => simp [hidle p] at hp

/-- Whoever claims the start of an uninitialized service gets it, and nobody gets another one. -/
lemma claim {c : Config} {s s' : Shared} {e : Event} (h : Progress κ n m s.service.state)
    (hp : κ p = .idle) (hclaim : e.action = .access .claimStartup)
    (heff : Effect e.thread s e.action e.answer s') :
    Progress (Function.update κ p ((startConduct c).after .idle e.action e.answer))
      (n + e.claims.toNat) (m + e.tells.toNat) s'.service.state := by
  obtain ⟨t, a, x, before⟩ := e
  obtain rfl : a = .access .claimStartup := hclaim
  change Effect t s (.access .claimStartup) x s' at heff
  obtain ⟨rfl, rfl⟩ := effect_access.mp heff
  by_cases hst : s.service.state = .uninitialized
  · rw [hst] at h
    obtain ⟨rfl, rfl, hidle⟩ := h.of_uninitialized
    simp only [Access.perform, hst, if_true]
    refine .claimed (Function.update_self _ _ _) (fun q hq => ?_) ?_
    · rw [Function.update_of_ne hq, hidle]
    · exact ServiceState.noConfusion
  · simp only [Access.perform, hst, if_false]
    have hkept : Function.update κ p .idle = κ := by rw [← hp, Function.update_eq_self]
    rw [← hkept] at h
    exact h

/-- What a place does that keeps to the conduct of a start moves the only start on, or leaves it
where it is. -/
lemma step {c : Config} {s s' : Shared} {e : Event} (h : Progress κ n m s.service.state)
    (hasks : (startConduct c).asks (κ p) e.action)
    (heff : Effect e.thread s e.action e.answer s') :
    Progress (Function.update κ p ((startConduct c).after (κ p) e.action e.answer))
      (n + e.claims.toNat) (m + e.tells.toNat) s'.service.state := by
  cases hp : κ p with
  | idle =>
      rw [hp] at hasks
      rcases hasks with hfree | ⟨hclaim, -⟩
      · rw [(startConduct_of_not_isOfStart hfree).2, ← hp, Function.update_eq_self,
          Event.claims_of_not_isOfStart hfree, Event.tells_of_not_isOfStart hfree]
        exact h.mono (state_of_not_isOfStart hfree heff)
      · exact h.claim hp hclaim heff
  | claimed =>
      rw [hp] at hasks
      obtain ⟨t, a, x, before⟩ := e
      obtain rfl : a = .access (.storeState .initialized) := hasks
      obtain ⟨rfl, rfl, hothers⟩ := h.of_claimed hp
      obtain ⟨-, rfl⟩ := effect_access.mp heff
      refine .published (Function.update_self _ _ _) (fun q hq => ?_) ⟨?_, ?_⟩
      · rw [Function.update_of_ne hq, hothers q hq]
      · exact ServiceState.noConfusion
      · exact ServiceState.noConfusion
  | published =>
      rw [hp] at hasks
      obtain ⟨t, a, x, before⟩ := e
      obtain rfl : a = .call .startupCompleted := hasks
      obtain ⟨rfl, rfl, hothers, hst⟩ := h.of_published hp
      obtain rfl : s' = s := heff
      refine .told (fun q => ?_) hst
      by_cases hq : q = p
      · rw [hq, Function.update_self]
        rfl
      · rw [Function.update_of_ne hq, hothers q hq]

end Progress

/-! ### Calls that start the service -/

/-- A call that starts the service claims the start, publishes it and tells the policy, and does
nothing else. -/
lemma startUp_leads_true {c : Config} {es : List Event}
    (h : (Routine.startUp c).Leads es (.done true)) :
    ∃ e₁ e₂ e₃, es = [e₁, e₂, e₃] ∧ e₁.claims = true ∧ e₂.publishes = true ∧ e₃.tells = true := by
  rw [Routine.startUp] at h
  split_ifs at h
  · obtain ⟨t₁, won, s₁, es₁, rfl, h₁⟩ := Routine.leads_access_done.mp h
    cases won with
    | false => simp at h₁
    | true =>
        obtain ⟨t₂, x₂, s₂, es₂, rfl, h₂⟩ := Routine.leads_access_done.mp h₁
        obtain ⟨t₃, x₃, s₃, es₃, rfl, h₃⟩ := Routine.leads_call_done.mp h₂
        obtain ⟨rfl, -⟩ := Routine.leads_done.mp h₃
        exact ⟨_, _, _, rfl, rfl, rfl, rfl⟩
  · simp at h

/-- A call that does not start the service claims nothing, publishes nothing and tells nobody. -/
lemma startUp_leads_false {c : Config} {es : List Event}
    (h : (Routine.startUp c).Leads es (.done false)) :
    ∀ e ∈ es, e.claims = false ∧ e.publishes = false ∧ e.tells = false := by
  rw [Routine.startUp] at h
  split_ifs at h
  · obtain ⟨t₁, won, s₁, es₁, rfl, h₁⟩ := Routine.leads_access_done.mp h
    cases won with
    | false =>
        obtain ⟨rfl, -⟩ := Routine.leads_done.mp h₁
        simp [Event.claims, Event.publishes, Event.tells]
    | true =>
        obtain ⟨t₂, x₂, s₂, es₂, rfl, h₂⟩ := Routine.leads_access_done.mp h₁
        obtain ⟨t₃, x₃, s₃, es₃, rfl, h₃⟩ := Routine.leads_call_done.mp h₂
        simp at h₃
  · obtain ⟨rfl, -⟩ := Routine.leads_done.mp h
    simp

/-! ### Runs -/

lemma Nest.Move.state {callback : Routine Unit → Prop} {N M : Nest}
    (h : Nest.Move callback N M) : M.shared.service.state = N.shared.service.state := by
  rcases h.shared with hshared | ⟨holder, hshared⟩
  · rw [hshared]
  · rw [hshared, Shared.setHolder]

section Runs

variable {c : Config} {N Q : Nest} {h : List Deed}

/-- Along every run there is at most one start. -/
theorem progress (hfresh : N.shared.service.state = .uninitialized)
    (hstarters : ∀ t, ∃ r, N.frames t = [r] ∧ Starter c r) (hrun : Nest.Run (Starter c) N h Q) :
    Progress ((startConduct c).track .idle h) (h.countP (·.event.claims))
      (h.countP (·.event.tells)) Q.shared.service.state := by
  have hheeds : ∀ r, Starter c r → r.Heeds (startConduct c) .idle fun _ k => k = .idle :=
    fun _ => Starter.heeds
  refine (hrun.invariant (I := fun h Q => Q.Heeds (startConduct c) .idle
    ((startConduct c).track .idle h) ∧ Progress ((startConduct c).track .idle h)
      (h.countP (·.event.claims)) (h.countP (·.event.tells)) Q.shared.service.state)
    ⟨(Nest.Run.refl N).heeds hheeds hstarters, ?_⟩ ?_ ?_).2
  · rw [hfresh]
    exact .waiting (fun _ => rfl) (by decide)
  · rintro g K d K' ⟨hK, hprogress⟩ hstep
    have htoNat : ∀ b : Bool, (if b = true then 1 else 0) = b.toNat := by
      rintro (_ | _) <;> rfl
    rw [Conduct.track_concat, List.countP_append, List.countP_append, List.countP_singleton,
      List.countP_singleton, htoNat, htoNat]
    exact ⟨hK.step hstep, hprogress.step (hK.asked hstep) hstep.effect⟩
  · rintro g K K' ⟨hK, hprogress⟩ hmove
    exact ⟨hK.move hmove hheeds, by rwa [hmove.state]⟩

/-- Two successful claims of a run are one. -/
lemma claim_unique {g g' k k' : List Deed} {d d' : Deed} (hone : h.countP (·.event.claims) ≤ 1)
    (hg : h = g ++ d :: g') (hk : h = k ++ d' :: k') (hd : d.event.claims = true)
    (hd' : d'.event.claims = true) : g = k ∧ d = d' := by
  subst hg
  rw [List.countP_append, List.countP_cons, if_pos hd] at hone
  have hpositive : ∀ l : List Deed, d' ∈ l → 0 < l.countP (·.event.claims) :=
    fun l hmem => List.countP_pos_iff.mpr ⟨d', hmem, hd'⟩
  have hbefore : d' ∉ g := fun hmem => by
    have := hpositive g hmem
    omega
  have hafter : d' ∉ g' := fun hmem => by
    have := hpositive g' hmem
    omega
  obtain ⟨rfl, rfl, -⟩ := (List.append_cons_inj_of_notMem hbefore hafter).mp hk
  exact ⟨rfl, rfl⟩

/-- A call that starts the service claims the start in a deed of its own. -/
lemma Nest.Called.exists_claim {p : Place} {before during : List Deed}
    (hc : Nest.Called (Starter c) N h Q p (Routine.startUp c) before during true) :
    ∃ g d g', h = g ++ d :: g' ∧ d.place = p ∧ d.event.claims = true ∧ before <+: g ∧
      g ++ [d] <+: before ++ during := by
  obtain ⟨e₁, e₂, e₃, hes, hclaims, -⟩ := startUp_leads_true hc.leads
  have hmem : e₁ ∈ deedsOf p during := by simp [hes]
  obtain ⟨g, d, g', hh, hp, rfl, hin⟩ := hc.exists_deed hmem
  exact ⟨g, d, g', hh, hp, hclaims, hin⟩

section Asked

variable (hstarters : ∀ t, ∃ r, N.frames t = [r] ∧ Starter c r)

include hstarters

/-- Only the place that has just published the start tells the policy. -/
lemma published_of_tells {g g' : List Deed} {d : Deed} (hd : d.event.tells = true)
    (hrun : Nest.Run (Starter c) N (g ++ d :: g') Q) :
    ∃ l e e', deedsOf d.place g = l ++ [e, e'] ∧ e.claims = true ∧ e'.publishes = true := by
  have hasks := hrun.asked (fun _ => Starter.heeds) hstarters
  refine exists_of_run_published (c := c) ?_
  change (startConduct c).asks ((startConduct c).run .idle (deedsOf d.place g)) _ at hasks
  obtain ⟨depth, ⟨t, a, x, s⟩⟩ := d
  generalize (startConduct c).run .idle (deedsOf _ g) = k at hasks ⊢
  obtain rfl : a = .call .startupCompleted := by
    rcases a with a | p | q
    · cases a <;> cases hd
    · cases hd
    · cases q <;> first | rfl | cases hd
  cases k with
  | idle => rcases hasks with hfree | ⟨hclaim, -⟩ <;> contradiction
  | claimed => cases hasks
  | published => rfl

/-- The start of a service that the configuration does not select is never claimed. -/
lemma not_claims_of_not_selects (hc : c.selectsExternalCompiler = false)
    (hrun : Nest.Run (Starter c) N h Q) : ∀ d ∈ h, d.event.claims = false := by
  intro d hd
  by_contra hclaims
  obtain ⟨g, g', rfl⟩ := List.append_of_mem hd
  have hasks := hrun.asked (fun _ => Starter.heeds) hstarters
  obtain ⟨depth, ⟨t, a, x, s⟩⟩ := d
  generalize (startConduct c).track .idle g _ = k at hasks
  obtain rfl : a = .access .claimStartup := by
    rcases a with a | p | q
    · cases a <;> first | rfl | exact absurd rfl hclaims
    · exact absurd rfl hclaims
    · exact absurd rfl hclaims
  cases k with
  | idle =>
      rcases hasks with hfree | ⟨-, hselects⟩
      · cases hfree
      · rw [hc] at hselects
        cases hselects
  | claimed => cases hasks
  | published => cases hasks

/-- A state other than uninitialized is never left for it. -/
lemma state_ne_uninitialized {g : List Deed} {R : Nest} (hrun : Nest.Run (Starter c) N h Q)
    (hrest : Nest.Run (Starter c) Q g R) (hstate : Q.shared.service.state ≠ .uninitialized) :
    R.shared.service.state ≠ .uninitialized := by
  have hheeds : ∀ r, Starter c r → r.Heeds (startConduct c) .idle fun _ k => k = .idle :=
    fun _ => Starter.heeds
  refine (hrest.invariant (I := fun g K => K.Heeds (startConduct c) .idle
    ((startConduct c).track .idle (h ++ g)) ∧ K.shared.service.state ≠ .uninitialized)
    ⟨by simpa using hrun.heeds hheeds hstarters, hstate⟩ ?_ ?_).2
  · rintro g K d K' ⟨hK, hst⟩ hstep
    rw [← List.append_assoc, Conduct.track_concat]
    refine ⟨hK.step hstep, fun hst' => hst ?_⟩
    exact uninitialized_of_asks (hK.asked hstep) hstep.effect hst'
  · rintro g K K' ⟨hK, hst⟩ hmove
    exact ⟨hK.move hmove hheeds, by rwa [hmove.state]⟩

end Asked

/-- **The service starts at most once.** Threads start a service, mark it as failed, shut it down
and bootstrap it, any number of times and also in callbacks of the policy and of other calls. At
most one call of `startUp` returns true. It claimed the start, published it and then told the
policy, once each; a call that returns false did none of this; and nobody else tells the policy. If
one of the switches is off, no call returns true, the policy is never told, and the service is never
initializing or initialized. A service that is not uninitialized any more never is again; and it is
initializing only while a call that claimed the start has done nothing since. -/
theorem starts_once (hfresh : N.shared.service.state = .uninitialized)
    (hstarters : ∀ t, ∃ r, N.frames t = [r] ∧ Starter c r) (hrun : Nest.Run (Starter c) N h Q) :
    (∀ p q before during before' during',
      Nest.Called (Starter c) N h Q p (Routine.startUp c) before during true →
      Nest.Called (Starter c) N h Q q (Routine.startUp c) before' during' true →
        p = q ∧ ∃ g d g', h = g ++ d :: g' ∧ d.place = p ∧
          (before <+: g ∧ g ++ [d] <+: before ++ during) ∧
          (before' <+: g ∧ g ++ [d] <+: before' ++ during')) ∧
    (∀ p before during,
      Nest.Called (Starter c) N h Q p (Routine.startUp c) before during true →
        ∃ e₁ e₂ e₃, deedsOf p during = [e₁, e₂, e₃] ∧ e₁.claims = true ∧ e₂.publishes = true ∧
          e₃.tells = true) ∧
    (∀ p before during,
      Nest.Called (Starter c) N h Q p (Routine.startUp c) before during false →
        ∀ e ∈ deedsOf p during, e.claims = false ∧ e.publishes = false ∧ e.tells = false) ∧
    h.countP (·.event.tells) ≤ 1 ∧
    (∀ g d g', h = g ++ d :: g' → d.event.tells = true →
      ∃ l e e', deedsOf d.place g = l ++ [e, e'] ∧ e.claims = true ∧ e'.publishes = true) ∧
    (c.useCompiler = false ∨ c.externalCompilerEnabled = false ∨
        c.externalCompilerDefault = false →
      (∀ p before during,
        ¬ Nest.Called (Starter c) N h Q p (Routine.startUp c) before during true) ∧
      (∀ d ∈ h, d.event.tells = false) ∧
      Q.shared.service.state ≠ .initializing ∧ Q.shared.service.state ≠ .initialized) ∧
    (∀ g R, Nest.Run (Starter c) Q g R → Q.shared.service.state ≠ .uninitialized →
      R.shared.service.state ≠ .uninitialized) ∧
    (Q.shared.service.state = .initializing →
      ∃ g d g', h = g ++ d :: g' ∧ d.event.claims = true ∧ (∀ d' ∈ g', d'.place ≠ d.place) ∧
        d.depth < (Q.frames d.event.thread).length) := by
  have hprogress := progress hfresh hstarters hrun
  obtain ⟨hone, htold⟩ := hprogress.bounds
  refine ⟨?_, fun p before during hc => startUp_leads_true hc.leads,
    fun p before during hc => startUp_leads_false hc.leads, Nat.le_trans htold hone, ?_, ?_, ?_, ?_⟩
  · intro p q before during before' during' hc hc'
    obtain ⟨g, d, g', hg, rfl, hd, hin⟩ := hc.exists_claim
    obtain ⟨k, d', k', hk, rfl, hd', hin'⟩ := hc'.exists_claim
    obtain ⟨rfl, rfl⟩ := claim_unique hone hg hk hd hd'
    exact ⟨rfl, g, d, g', hg, rfl, hin, hin'⟩
  · rintro g d g' rfl hd
    exact published_of_tells hstarters hd hrun
  · intro hoff
    have hselects : c.selectsExternalCompiler = false := by
      rw [Config.selectsExternalCompiler]
      rcases hoff with h | h | h <;> simp [h]
    have hnone := not_claims_of_not_selects hstarters hselects hrun
    have hzero : h.countP (·.event.claims) = 0 :=
      List.countP_eq_zero.mpr fun d hd => by simp [hnone d hd]
    rw [hzero] at hprogress
    obtain ⟨htells, hstate⟩ := hprogress.of_unclaimed
    refine ⟨fun p before during hc => ?_, fun d hd => ?_, hstate⟩
    · obtain ⟨g, d, g', rfl, -, hd, -⟩ := hc.exists_claim
      simp [hnone d (by simp)] at hd
    · simpa using List.countP_eq_zero.mp htells d hd
  · exact fun g R => state_ne_uninitialized hstarters hrun
  · intro hstate
    rw [hstate] at hprogress
    obtain ⟨p, hp⟩ := hprogress.of_initializing
    obtain ⟨l, e, hes, hclaims⟩ := exists_of_run_claimed hp
    obtain ⟨g, d, g', hh, rfl, rfl, -, hlast⟩ := exists_of_deedsOf_eq_append_cons hes
    refine ⟨g, d, g', hh, hclaims, fun d' hd' hplace => ?_, ?_⟩
    · have hmem : d'.event ∈ deedsOf d.place g' := mem_deedsOf.mpr ⟨d', hd', hplace, rfl⟩
      simp [hlast] at hmem
    · by_contra hdepth
      have hidle := (hrun.heeds (fun _ => Starter.heeds) hstarters).fresh d.place
        (Nat.le_of_not_lt hdepth)
      rw [hp] at hidle
      cases hidle

end Runs

/-! ### A start that is interrupted -/

/-- Starts the service and is done. -/
def smallStart : Routine Unit :=
  (Routine.startUp {}).bind fun _ => .done ()

/-- A thread that starts the service, and one that shuts it down. -/
def interrupted : Nest where
  shared := {}
  frames
    | 1 => [smallStart]
    | 2 => [.act (.access (.storeState .shutDown)) fun _ => .done ()]
    | _ => [.done ()]

lemma starter_smallStart : Starter {} smallStart :=
  .start fun _ => .done

/-- The first thread claims the start, the service is shut down, and the first thread publishes all
the same; the policy starts the service again, to no avail, before it was told. -/
theorem starts_once_interrupted : ∃ h Q, Nest.Run (Starter {}) interrupted h Q ∧
    Q.shared.service.state = .initialized ∧
    Nest.Called (Starter {}) interrupted h Q ⟨1, 0⟩ (Routine.startUp {}) [] h true ∧
    h.countP (·.event.tells) ≤ 1 ∧
    ∀ q before during,
      Nest.Called (Starter {}) interrupted h Q q (Routine.startUp {}) before during true →
        q = ⟨1, 0⟩ := by
  have hstarters : ∀ t, ∃ r, interrupted.frames t = [r] ∧ Starter {} r := by
    intro t
    simp only [interrupted]
    split
    · exact ⟨_, rfl, starter_smallStart⟩
    · exact ⟨_, rfl, .act rfl fun _ => .done⟩
    · exact ⟨_, rfl, .done⟩
  obtain ⟨h, Q, hrun, hstate, hleads⟩ : ∃ h Q, Nest.Run (Starter {}) interrupted h Q ∧
      Q.shared.service.state = .initialized ∧
      (Routine.startUp {}).Leads (deedsOf ⟨1, 0⟩ h) (.done true) :=
    ⟨_, _, .step (.act (t := 1) rfl (effect_access.mpr ⟨rfl, rfl⟩))
      (.step (.act (t := 2) rfl (effect_access.mpr ⟨rfl, rfl⟩))
        (.step (.act (t := 1) rfl (effect_access.mpr ⟨rfl, rfl⟩))
          (.move (.enter (t := 1) rfl starter_smallStart)
            (.step (.act (t := 1) rfl (effect_access.mpr ⟨rfl, rfl⟩))
              (.move (.leave (t := 1) rfl)
                (.step (.act (t := 1) (x := ()) rfl rfl) (.refl _))))))), rfl,
      .act _ _ _ (.act _ _ _ (.act _ _ _ (.refl _)))⟩
  have hcalled : Nest.Called (Starter {}) interrupted h Q ⟨1, 0⟩ (Routine.startUp {}) [] h true :=
    ⟨⟨interrupted, [], fun _ => .done (), [], by simp, .refl _, by simpa using hrun, rfl, rfl⟩,
      hleads⟩
  obtain ⟨hunique, -, -, htold, -⟩ := starts_once rfl hstarters hrun
  exact ⟨h, Q, hrun, hstate, hcalled, htold,
    fun q before during hc => (hunique _ _ _ _ _ _ hc hcalled).1⟩

end ExternalCompiler
