/-
How long a service stays shut down while its threads start it, mark it as failed, shut it down and
bootstrap it, also in callbacks:

* `Event.writes`: the state that an event leaves the service in, whatever it was in before;
  `writtenBy_state`: an event that writes nothing leaves the state alone;
* `Nest.Run.published_after`: after a shutdown only a start that was claimed before it publishes;
* `bootstrap_failsIfRefused`: a bootstrap writes the state exactly when its notification was
  refused, and then says that the service failed;
* `shut_down_until`: a shutdown lasts until one of the two happens;
* `shut_down_left`: both do.
-/
import ExternalCompiler.Proofs.LastWrite
import ExternalCompiler.Proofs.Startup

namespace ExternalCompiler

/-! ### Writes of the state -/

/-- The state that an event leaves the service in, if it does not leave its state alone. -/
def Event.writes : Event → Option ServiceState
  | ⟨_, .access (.storeState st), _, _⟩ => some st
  | ⟨_, .access .claimStartup, true, _⟩ => some .initializing
  | _ => none

namespace Event

lemma writes_eq_some_initialized_iff {e : Event} :
    e.writes = some .initialized ↔ e.publishes = true := by
  obtain ⟨t, a, x, s⟩ := e
  rcases a with a | p | c
  · cases a with
    | storeState st => cases st <;> simp [writes, publishes]
    | claimStartup => cases x <;> simp [writes, publishes]
    | _ => simp [writes, publishes]
  · simp [writes, publishes]
  · simp [writes, publishes]

lemma writes_of_claims {e : Event} (h : e.claims = true) : e.writes = some .initializing := by
  obtain ⟨t, a, x, s⟩ := e
  rcases a with a | p | c
  · cases a with
    | claimStartup => cases x <;> first | rfl | cases h
    | _ => cases h
  · cases h
  · cases h

lemma writes_of_writesState {e : Event} (h : e.action.writesState = false) : e.writes = none := by
  obtain ⟨t, a, x, s⟩ := e
  rcases a with a | p | c
  · cases a <;> first | rfl | cases h
  · rfl
  · rfl

end Event

/-- An event leaves the state that it writes, and otherwise the state that it finds. -/
lemma writtenBy_state : WrittenBy (·.service.state) Event.writes where
  effect e s s' heff := by
    by_cases hwrites : e.action.writesState = true
    · obtain ⟨t, a, x, before⟩ := e
      rcases a with a | p | c
      · cases a with
        | storeState st =>
            obtain ⟨-, rfl⟩ := effect_access.mp heff
            rfl
        | claimStartup =>
            change Effect t s (.access .claimStartup) x s' at heff
            obtain ⟨rfl, rfl⟩ := effect_access.mp heff
            by_cases hst : s.service.state = .uninitialized <;>
              simp [Event.writes, Access.perform, Shared.onService, hst]
        | _ => cases hwrites
      · cases hwrites
      · cases hwrites
    · rw [Bool.not_eq_true] at hwrites
      rw [Event.writes_of_writesState hwrites]
      exact keeps_state hwrites _ _ _ _ heff
  lock s holder := rfl

/-- After a write only what was written since decides the state. -/
lemma Nest.Run.state_since {callback : Routine Unit → Prop} {N Q : Nest} {g g' : List Deed}
    {d : Deed} {st : ServiceState} (hrun : Nest.Run callback N (g ++ d :: g') Q)
    (hd : d.event.writes = some st) :
    Q.shared.service.state = lastWrite (fun d : Deed => d.event.writes) st g' := by
  rw [hrun.written writtenBy_state]
  exact lastWrite_append_cons (w := fun d : Deed => d.event.writes) hd g g'

/-- The state is kept through the rest of a run exactly when every beginning of the rest writes it
last. -/
lemma Nest.Run.kept_iff {callback : Routine Unit → Prop} {N Q : Nest} {g g' : List Deed} {d : Deed}
    {st : ServiceState} (hrun : Nest.Run callback N (g ++ d :: g') Q)
    (hd : d.event.writes = some st) :
    (∀ k R, k <+: g' → Nest.Run callback N (g ++ d :: k) R → R.shared.service.state = st) ↔
      ∀ k, k <+: g' → lastWrite (fun d : Deed => d.event.writes) st k = st := by
  constructor
  · rintro hkept k ⟨k', rfl⟩
    obtain ⟨R, hR, -⟩ := Nest.Run.split (h := g ++ d :: k) (g := k') (by simpa using hrun)
    exact (hR.state_since hd).symm.trans (hkept k R ⟨k', rfl⟩ hR)
  · intro hkept k R hk hR
    exact (hR.state_since hd).trans (hkept k hk)

/-! ### What calls write -/

/-- A call that does not start the service leaves its state alone. -/
lemma startUp_writes_nothing {c : Config} {es : List Event}
    (h : (Routine.startUp c).Leads es (.done false)) : ∀ e ∈ es, e.writes = none := by
  rw [Routine.startUp] at h
  split_ifs at h
  · obtain ⟨t₁, won, s₁, es₁, rfl, h₁⟩ := Routine.leads_access_done.mp h
    cases won with
    | false =>
        obtain ⟨rfl, -⟩ := Routine.leads_done.mp h₁
        simp [Event.writes]
    | true =>
        obtain ⟨t₂, x₂, s₂, es₂, rfl, h₂⟩ := Routine.leads_access_done.mp h₁
        obtain ⟨t₃, x₃, s₃, es₃, rfl, h₃⟩ := Routine.leads_call_done.mp h₂
        simp at h₃
  · obtain ⟨rfl, -⟩ := Routine.leads_done.mp h
    simp

/-- The external runtime did not accept the end of a bootstrap. -/
def Event.refuses : Event → Bool
  | ⟨_, .call .bootstrapFinished, .error _, _⟩ => true
  | _ => false

lemma Event.refuses_of_ne {e : Event} (h : e.action ≠ .call .bootstrapFinished) :
    e.refuses = false := by
  obtain ⟨t, a, x, s⟩ := e
  rcases a with a | p | c
  · rfl
  · rfl
  · cases c <;> first | rfl | exact absurd rfl h

lemma Action.writesState_of_isWatch {a : Action} (h : a.isWatch = true) :
    a.writesState = false := by
  cases h using isWatch_cases <;> rfl

/-- Events that write the state exactly when the external runtime refused the end of a bootstrap,
and then say that the service failed. -/
def FailsIfRefused (es : List Event) : Prop :=
  (∀ e ∈ es, e.writes = none ∨ e.writes = some .failed) ∧
    ((∃ e ∈ es, e.writes = some .failed) ↔ ∃ e ∈ es, e.refuses = true)

lemma FailsIfRefused.append {es es' : List Event} (h : FailsIfRefused es)
    (h' : FailsIfRefused es') : FailsIfRefused (es ++ es') := by
  obtain ⟨hwrites, hiff⟩ := h
  obtain ⟨hwrites', hiff'⟩ := h'
  refine ⟨fun e he => (List.mem_append.mp he).elim (hwrites e) (hwrites' e), ?_⟩
  simp only [List.mem_append, or_and_right, exists_or]
  exact or_congr hiff hiff'

lemma failsIfRefused_of_quiet {es : List Event}
    (h : ∀ e ∈ es, e.action.writesState = false ∧ e.action ≠ .call .bootstrapFinished) :
    FailsIfRefused es := by
  refine ⟨fun e he => .inl (Event.writes_of_writesState (h e he).1), ?_⟩
  constructor
  · rintro ⟨e, he, hfailed⟩
    simp [Event.writes_of_writesState (h e he).1] at hfailed
  · rintro ⟨e, he, hrefused⟩
    simp [Event.refuses_of_ne (h e he).2] at hrefused

lemma Ending.failsIfRefused {saved : Bool} {y : Except ServiceError BootstrapReport}
    {es : List Event} {x : Except ServiceError (Option BootstrapReport)}
    (h : Ending saved y es x) : FailsIfRefused es := by
  cases h <;> simp [FailsIfRefused, Event.writes, Event.refuses]

section Bootstrap

variable {polls : Nat} {c : Config} {cancellable : Bool} {methods : List Method} {broker : Broker}
  {es : List Event} {x : Except ServiceError (Option BootstrapReport)}

/-- A bootstrap that does not get its window does nothing else. -/
lemma bootstrap_leads_rejected (hopen : ¬ ∃ e ∈ es, e.opensWindow = true)
    (h : (Routine.bootstrap polls c cancellable methods broker).Leads es (.done x)) :
    ∀ e ∈ es, e.action = .access .openWindow := by
  rw [Routine.bootstrap] at h
  split_ifs at h
  · obtain ⟨rfl, -⟩ := Routine.leads_done.mp h
    simp
  · obtain ⟨t, opened, s, es', rfl, h'⟩ := Routine.leads_access_done.mp h
    cases opened with
    | false =>
        obtain ⟨rfl, -⟩ := Routine.leads_done.mp h'
        simp
    | true => simp [Event.opensWindow] at hopen

/-- **A bootstrap writes the state exactly when its notification was refused**, and then says that
the service failed. -/
lemma bootstrap_failsIfRefused
    (hb : broker.Only fun a => a.writesState = false ∧ a ≠ .call .bootstrapFinished)
    (h : (Routine.bootstrap polls c cancellable methods broker).Leads es (.done x)) :
    FailsIfRefused es := by
  by_cases hopen : ∃ e ∈ es, e.opensWindow = true
  · have hmode : c.executionMode ≠ .interpreted := by
      intro hmode
      rw [Routine.bootstrap, if_pos hmode] at h
      obtain ⟨rfl, -⟩ := Routine.leads_done.mp h
      simp at hopen
    obtain ⟨t, s, t', saved, s', es₁, es₂, y, rfl, hinside, hend⟩ :=
      Routine.bootstrap_leads_done hmode h hopen
    have hquiet : ∀ a : Action, a.isWatch = true →
        a.writesState = false ∧ a ≠ .call .bootstrapFinished :=
      fun a ha => ⟨Action.writesState_of_isWatch ha, by rintro rfl; cases ha⟩
    have honly := (Routine.only_seedAndDrain hquiet hb _ _ _ _).leads hinside
    have hopening : FailsIfRefused [⟨t, .access .openWindow, true, s⟩,
        ⟨t', .access (.swapFlag false), saved, s'⟩] := by
      simp [FailsIfRefused, Event.writes, Event.refuses]
    exact hopening.append ((failsIfRefused_of_quiet honly.2).append hend.failsIfRefused)
  · refine failsIfRefused_of_quiet fun e he => ?_
    rw [bootstrap_leads_rejected hopen h e he]
    exact ⟨rfl, Action.noConfusion⟩

end Bootstrap

/-! ### What the threads write -/

section Writes

variable {c : Config} {N Q : Nest}

/-- What the conduct of a start allows writes no other state than these. -/
lemma writes_of_asks {k : Phase} {e : Event} (hasks : (startConduct c).asks k e.action) :
    e.writes = none ∨ e.claims = true ∨ e.writes = some .initialized ∨ e.writes = some .failed ∨
      e.writes = some .shutDown := by
  obtain ⟨t, a, x, s⟩ := e
  rcases a with a | p | q
  · cases a with
    | storeState st =>
        cases st with
        | initialized => exact .inr (.inr (.inl rfl))
        | failed => exact .inr (.inr (.inr (.inl rfl)))
        | shutDown => exact .inr (.inr (.inr (.inr rfl)))
        | _ => cases k <;> simp [startConduct, Action.isOfStart] at hasks
    | claimStartup =>
        cases x with
        | false => exact .inl rfl
        | true => exact .inr (.inl rfl)
    | _ => exact .inl rfl
  · exact .inl rfl
  · exact .inl rfl

/-- Only an uninitialized service is claimed. -/
lemma uninitialized_of_claims {e : Event} {s s' : Shared} (he : e.claims = true)
    (heff : Effect e.thread s e.action e.answer s') : s.service.state = .uninitialized := by
  obtain ⟨t, a, x, before⟩ := e
  obtain rfl : a = .access .claimStartup := by
    rcases a with a | p | q
    · cases a <;> first | rfl | cases he
    · cases he
    · cases he
  obtain rfl : x = true := by
    cases x with
    | false => cases he
    | true => rfl
  by_contra hst
  have hanswer := (effect_access.mp heff).1
  simp [Access.perform, hst] at hanswer

/-- Only the place that has just claimed the start publishes it. -/
lemma claimed_of_publishes {k : Phase} {e : Event} (he : e.publishes = true)
    (hasks : (startConduct c).asks k e.action) : k = .claimed := by
  obtain ⟨t, a, x, s⟩ := e
  obtain rfl : a = .access (.storeState .initialized) := by
    rcases a with a | p | q
    · cases a with
      | storeState st => cases st <;> first | rfl | cases he
      | _ => cases he
    · cases he
    · cases he
  cases k with
  | idle =>
      rcases hasks with hfree | ⟨hclaim, -⟩
      · cases hfree
      · cases hclaim
  | claimed => rfl
  | published => cases hasks

namespace Nest.Run

variable (hstarters : ∀ t, ∃ r, N.frames t = [r] ∧ Starter c r)

include hstarters

/-- A run writes no other state than these. -/
lemma writes_of_mem {h : List Deed} {d : Deed} (hrun : Nest.Run (Starter c) N h Q) (hd : d ∈ h) :
    d.event.writes = none ∨ d.event.claims = true ∨ d.event.writes = some .initialized ∨
      d.event.writes = some .failed ∨ d.event.writes = some .shutDown := by
  obtain ⟨g, g', rfl⟩ := List.append_of_mem hd
  exact writes_of_asks (hrun.asked (fun _ => Starter.heeds) hstarters)

/-- Nobody claims the start of a service that was shut down. -/
lemma not_claims_after {g g' : List Deed} {d : Deed}
    (hrun : Nest.Run (Starter c) N (g ++ d :: g') Q) (hd : d.event.writes = some .shutDown) :
    ∀ d' ∈ g', d'.event.claims = false := by
  intro d' hd'
  by_contra hclaims
  obtain ⟨k, k', rfl⟩ := List.append_of_mem hd'
  have hrun' : Nest.Run (Starter c) N ((g ++ d :: k) ++ d' :: k') Q := by simpa using hrun
  obtain ⟨K, K', hK, hstep⟩ := hrun'.at_deed
  have hstate := uninitialized_of_claims (Bool.not_eq_false _ ▸ hclaims) hstep.effect
  rw [hK.state_since hd] at hstate
  refine absurd hstate (lastWrite_induct (p := fun st : ServiceState => st ≠ .uninitialized)
    (by decide) ?_)
  rintro e he st hst rfl
  rcases hK.writes_of_mem hstarters (d := e) (by simp [he]) with h | h | h | h | h
  · simp [h] at hst
  · simp [Event.writes_of_claims h] at hst
  · simp [h] at hst
  · simp [h] at hst
  · simp [h] at hst

/-- **After a shutdown only a start that was claimed before it publishes.** -/
lemma published_after {g k k' : List Deed} {d d' : Deed}
    (hrun : Nest.Run (Starter c) N (g ++ d :: (k ++ d' :: k')) Q)
    (hd : d.event.writes = some .shutDown) (hd' : d'.event.publishes = true) :
    ∃ l e l', g = l ++ e :: l' ∧ e.place = d'.place ∧ e.event.claims = true ∧
      deedsOf d'.place (l' ++ d :: k) = [] := by
  have hrun' : Nest.Run (Starter c) N ((g ++ d :: k) ++ d' :: k') Q := by simpa using hrun
  have htrack := claimed_of_publishes hd' (hrun'.asked (fun _ => Starter.heeds) hstarters)
  obtain ⟨es, e, hes, hclaims⟩ := exists_of_run_claimed htrack
  have hsince : deedsOf d'.place (d :: k) = [] := by
    rw [deedsOf_append] at hes
    rcases List.eq_nil_or_concat' (deedsOf d'.place (d :: k)) with hnil | ⟨l, e', hl⟩
    · exact hnil
    · rw [hl, ← List.append_assoc] at hes
      obtain rfl : e' = e := by simpa using (List.append_inj' hes rfl).2
      have hmem : e' ∈ deedsOf d'.place (d :: k) := by simp [hl]
      obtain ⟨a, ha, -, rfl⟩ := mem_deedsOf.mp hmem
      rcases List.mem_cons.mp ha with rfl | ha
      · simp [Event.writes_of_claims hclaims] at hd
      · simp [hrun.not_claims_after hstarters hd a (by simp [ha])] at hclaims
  rw [deedsOf_append, hsince, List.append_nil] at hes
  obtain ⟨l, e, l', rfl, hplace, rfl, -, hlast⟩ := exists_of_deedsOf_eq_append_cons hes
  exact ⟨l, e, l', rfl, hplace, hclaims, by rw [deedsOf_append, hlast, hsince, List.append_nil]⟩

/-- No start is published twice. -/
lemma not_publishes_twice {k m k' : List Deed} {d d' : Deed}
    (hfresh : N.shared.service.state = .uninitialized)
    (hrun : Nest.Run (Starter c) N (k ++ d :: (m ++ d' :: k')) Q) (hd : d.event.publishes = true)
    (hd' : d'.event.publishes = true) : False := by
  have hrun' : Nest.Run (Starter c) N ((k ++ d :: m) ++ d' :: k') Q := by simpa using hrun
  obtain ⟨es, x, hes, hclaims⟩ := exists_of_run_claimed
    (claimed_of_publishes hd (hrun.asked (fun _ => Starter.heeds) hstarters))
  obtain ⟨es', x', hes', hclaims'⟩ := exists_of_run_claimed
    (claimed_of_publishes hd' (hrun'.asked (fun _ => Starter.heeds) hstarters))
  obtain ⟨l, e, l', rfl, hplace, rfl, -, -⟩ := exists_of_deedsOf_eq_append_cons hes
  obtain ⟨q, e', q', hsplit, hplace', rfl, -, hlast⟩ := exists_of_deedsOf_eq_append_cons hes'
  -- both were claimed by the only claim, and the first was published after it
  obtain ⟨K, K', hK, -⟩ := hrun'.at_deed
  obtain ⟨hone, -⟩ := (progress hfresh hstarters hK).bounds
  obtain ⟨rfl, rfl⟩ :=
    claim_unique hone (List.append_assoc l (e :: l') (d :: m)) hsplit hclaims hclaims'
  have hq' : q' = l' ++ d :: m := by simpa using hsplit.symm
  have hmem : d.event ∈ deedsOf d'.place q' :=
    mem_deedsOf.mpr ⟨d, by simp [hq'], hplace.symm.trans hplace', rfl⟩
  simp [hlast] at hmem

lemma not_publishes_again {k k' : List Deed} {d : Deed}
    (hfresh : N.shared.service.state = .uninitialized)
    (hrun : Nest.Run (Starter c) N (k ++ d :: k') Q) (hd : d.event.publishes = true) :
    ∀ d' ∈ k ++ k', d'.event.writes ≠ some .initialized := by
  intro d' hd' htwice
  have hpublishes := Event.writes_eq_some_initialized_iff.mp htwice
  rcases List.mem_append.mp hd' with hbefore | hafter
  · obtain ⟨m, m', rfl⟩ := List.append_of_mem hbefore
    have hrun' : Nest.Run (Starter c) N (m ++ d' :: (m' ++ d :: k')) Q := by simpa using hrun
    exact hrun'.not_publishes_twice hstarters hfresh hpublishes hd
  · obtain ⟨m, m', rfl⟩ := List.append_of_mem hafter
    exact hrun.not_publishes_twice hstarters hfresh hd hpublishes

/-- A call that starts after the shutdown does nothing to the service. -/
lemma startUp_after {g g' before during : List Deed} {d : Deed} {p : Place} {b : Bool}
    (hrun : Nest.Run (Starter c) N (g ++ d :: g') Q) (hd : d.event.writes = some .shutDown)
    (hbefore : g ++ [d] <+: before)
    (hc : Nest.Called (Starter c) N (g ++ d :: g') Q p (Routine.startUp c) before during b) :
    b = false ∧ ∀ e ∈ deedsOf p during, e.writes = none := by
  cases b with
  | false => exact ⟨rfl, startUp_writes_nothing hc.leads⟩
  | true =>
      obtain ⟨k, e, k', hk, -, hclaims, hbefore', -⟩ := hc.exists_claim
      obtain ⟨m, rfl⟩ := hbefore.trans hbefore'
      have hg' : g' = m ++ e :: k' := by simpa using hk
      simp [hrun.not_claims_after hstarters hd e (by simp [hg'])] at hclaims

end Nest.Run

/-- **A shutdown lasts until somebody writes the state again.** Threads start a service, mark it as
failed, shut it down and bootstrap it, any number of times and also in callbacks. After a shutdown
the service is shut down at every moment exactly when nobody publishes a start and nobody says that
the service failed; else it is initialized or failed. Only one start is published after a shutdown,
and only by a place that had claimed it before and did nothing since. A call of `startUp` that
begins after a shutdown does nothing to the service; and a bootstrap says that the service failed
exactly when its notification was refused. -/
theorem shut_down_until {g g' : List Deed} {d : Deed}
    (hfresh : N.shared.service.state = .uninitialized)
    (hstarters : ∀ t, ∃ r, N.frames t = [r] ∧ Starter c r)
    (hrun : Nest.Run (Starter c) N (g ++ d :: g') Q) (hd : d.event.writes = some .shutDown) :
    ((∀ k R, k <+: g' → Nest.Run (Starter c) N (g ++ d :: k) R →
        R.shared.service.state = .shutDown) ↔
      ∀ d' ∈ g', d'.event.writes ≠ some .initialized ∧ d'.event.writes ≠ some .failed) ∧
    (Q.shared.service.state = .shutDown ∨ Q.shared.service.state = .initialized ∨
      Q.shared.service.state = .failed) ∧
    (∀ k d' k', g' = k ++ d' :: k' → d'.event.writes = some .initialized →
      (∃ l e l', g = l ++ e :: l' ∧ e.place = d'.place ∧ e.event.claims = true ∧
        deedsOf d'.place (l' ++ d :: k) = []) ∧
      ∀ d'' ∈ g ++ d :: k ++ k', d''.event.writes ≠ some .initialized) ∧
    (∀ p before during b, g ++ [d] <+: before →
      Nest.Called (Starter c) N (g ++ d :: g') Q p (Routine.startUp c) before during b →
        b = false ∧ ∀ e ∈ deedsOf p during, e.writes = none) ∧
    (∀ p polls cancellable methods before during, ∀ broker : Broker,
      ∀ x : Except ServiceError (Option BootstrapReport),
      broker.Only (fun a => a.writesState = false ∧ a ≠ .call .bootstrapFinished) →
      Nest.Called (Starter c) N (g ++ d :: g') Q p
        (Routine.bootstrap polls c cancellable methods broker) before during x →
        FailsIfRefused (deedsOf p during)) := by
  have hnone := hrun.not_claims_after hstarters hd
  have hlater : ∀ d' ∈ g', d'.event.writes = none ∨ d'.event.writes = some .initialized ∨
      d'.event.writes = some .failed ∨ d'.event.writes = some .shutDown := by
    intro d' hd'
    rcases hrun.writes_of_mem hstarters (d := d') (by simp [hd']) with h | h | h
    · exact .inl h
    · simp [hnone d' hd'] at h
    · exact .inr h
  refine ⟨?_, ?_, ?_, ?_, ?_⟩
  · rw [hrun.kept_iff hd, lastWrite_of_prefix_iff]
    refine forall₂_congr fun d' hd' => ?_
    rcases hlater d' hd' with h | h | h | h <;> simp [h]
  · rw [hrun.state_since hd]
    refine lastWrite_induct (p := fun st : ServiceState =>
      st = .shutDown ∨ st = .initialized ∨ st = .failed) (.inl rfl) fun d' hd' st hst => ?_
    rcases hlater d' hd' with h | h | h | h
    · simp [h] at hst
    · exact .inr (.inl (Option.some.inj (hst.symm.trans h)))
    · exact .inr (.inr (Option.some.inj (hst.symm.trans h)))
    · exact .inl (Option.some.inj (hst.symm.trans h))
  · rintro k d' k' rfl hd'
    have hpublishes := Event.writes_eq_some_initialized_iff.mp hd'
    have hrun' : Nest.Run (Starter c) N ((g ++ d :: k) ++ d' :: k') Q := by simpa using hrun
    exact ⟨hrun.published_after hstarters hd hpublishes,
      hrun'.not_publishes_again hstarters hfresh hpublishes⟩
  · exact fun p before during b hbefore hc => hrun.startUp_after hstarters hd hbefore hc
  · exact fun p polls cancellable methods before during broker x hb hc =>
      bootstrap_failsIfRefused hb hc.leads

end Writes

/-! ### A shutdown that does not last -/

/-- A thread that starts the service, one that bootstraps it without methods, and one that shuts it
down. -/
def closing : System where
  shared := { service := { requestHandled := true } }
  threads
    | 1 => smallStart
    | 2 => (Routine.bootstrap 1 {} false [] .queue).bind fun _ => .done ()
    | 3 => .act (.access (.storeState .shutDown)) fun _ => .done ()
    | _ => .done ()

/-- An external runtime that does not accept the end of a bootstrap. -/
def refusal : (c : Call) → c.Answer
  | .bootstrapFinished => .error (.communication "bootstrap finished" "gone")
  | c => c.silence

/-- The service is shut down between the claim of a start and its publication. -/
def lateStart : List Event × System :=
  closing.play Call.silence [1, 3, 1]

/-- The service is shut down after a bootstrap closed its window, which is refused then. -/
def lateRefusal : List Event × System :=
  closing.play refusal (List.replicate 13 2 ++ [3, 2, 2])

lemma Action.isOfStart_of_isVisit {a : Action} (h : a.isVisit = true) : a.isOfStart = false := by
  cases h using isVisit_cases <;> rfl

lemma starter_closing (t : ThreadId) :
    ∃ r, (Nest.ofSystem closing).frames t = [r] ∧ Starter {} r := by
  refine ⟨closing.threads t, rfl, ?_⟩
  simp only [closing]
  split
  · exact starter_smallStart
  · exact .boot (queue_only fun _ => Action.isOfStart_of_isVisit) fun _ => .done
  · exact .act rfl fun _ => .done
  · exact .done

/-- A start is claimed, the service is shut down, and the place that claimed the start publishes it,
so the shutdown does not last. -/
theorem shut_down_until_started : ∃ g d g' Q,
    Nest.Run (Starter {}) (Nest.ofSystem closing) (g ++ d :: g') Q ∧
    d.event.writes = some .shutDown ∧ Q.shared.service.state = .initialized ∧
    (∃ e ∈ g, e.place = ⟨1, 0⟩ ∧ e.event.claims = true) ∧
    ¬ ∀ d' ∈ g', d'.event.writes ≠ some .initialized ∧ d'.event.writes ≠ some .failed := by
  obtain ⟨g, d, g', Q, hrun, hd, hstate, hpublished⟩ : ∃ g d g' Q,
      Nest.Run (Starter {}) (Nest.ofSystem closing) (g ++ d :: g') Q ∧
      d.event.writes = some .shutDown ∧ Q.shared.service.state = .initialized ∧
      ∃ d', g' = [] ++ d' :: [] ∧ d'.event.writes = some .initialized ∧ d'.place = ⟨1, 0⟩ :=
    ⟨[_], _, [_], _, .step (.act (t := 1) rfl (effect_access.mpr ⟨rfl, rfl⟩))
      (.step (.act (t := 3) rfl (effect_access.mpr ⟨rfl, rfl⟩))
        (.step (.act (t := 1) rfl (effect_access.mpr ⟨rfl, rfl⟩)) (.refl _))),
      rfl, rfl, _, rfl, rfl, rfl⟩
  obtain ⟨hkept, -, hclaimed, -⟩ := shut_down_until rfl starter_closing hrun hd
  obtain ⟨d', hg', hwrites, hplace⟩ := hpublished
  obtain ⟨⟨l, e, l', rfl, he, hclaims, -⟩, -⟩ := hclaimed _ _ _ hg' hwrites
  refine ⟨_, d, g', Q, hrun, hd, hstate, ⟨e, by simp, he.trans hplace, hclaims⟩, fun hnone => ?_⟩
  have hlasts := hkept.mpr hnone g' Q (List.prefix_refl g') hrun
  simp [hstate] at hlasts

/-- **A service that was shut down is initialized by a start that was claimed before, and failed by
a bootstrap whose notification is refused.** -/
theorem shut_down_left :
    (∃ h Q, Nest.Run (Starter {}) (Nest.ofSystem closing) h Q ∧
      (∃ d ∈ h, d.event.writes = some .shutDown) ∧ Q.shared.service.state = .initialized) ∧
    ∃ h Q, Nest.Run (Starter {}) (Nest.ofSystem closing) h Q ∧
      (∃ d ∈ h, d.event.writes = some .shutDown) ∧ Q.shared.service.state = .failed := by
  have hstart : System.Run closing lateStart.1 lateStart.2 := System.run_play _ _ _
  have hrefusal : System.Run closing lateRefusal.1 lateRefusal.2 := System.run_play _ _ _
  exact ⟨⟨_, _, Nest.run_ofSystem hstart, by decide +kernel, by decide +kernel⟩,
    ⟨_, _, Nest.run_ofSystem hrefusal, by decide +kernel, by decide +kernel⟩⟩

end ExternalCompiler
