/-
Whether a worker is attached when the external runtime is asked to detach or repack it:

* `Event.finds`, `Action.asksAway`, `Event.marks`: a worker is found attached, the runtime is asked
  to detach or repack it, it is marked as attached or detached;
* `vouchConduct`: only who found a worker attached asks for that, and who detached it marks it next;
  `Operation.vouches`, `Client.vouches`: all programs keep to that;
* `exists_lastFound`: so each such call has a test of its own thread before it;
* `attached_unless_overtaken`: the worker is attached at the call unless another thread marked it in
  between, and two calls without an attachment in between overlap;
* `overtaken`: both happen.
-/
import ExternalCompiler.Proofs.LastWrite
import ExternalCompiler.Proofs.Queue.Acceptance

namespace ExternalCompiler

/-! ### Events of a worker -/

/-- The external runtime is asked to detach or repack a worker. -/
def Action.asksAway (w : Nat) : Action → Bool
  | .call (.detach v _) | .call (.repack v) => v == w
  | _ => false

/-- The action is about the attachment of a worker: it tests it, marks it, or asks the external
runtime to detach or repack the worker. -/
def Action.isAbout (w : Nat) : Action → Bool
  | .access (.readAttached v) | .access (.storeAttached v _) | .call (.detach v _)
  | .call (.repack v) => v == w
  | _ => false

namespace Event

/-- A worker is found attached. -/
def finds (w : Nat) : Event → Bool
  | ⟨_, .access (.readAttached v), (attached : Bool), _⟩ => v == w && attached
  | _ => false

/-- The external runtime detached a worker. -/
def detaches (w : Nat) : Event → Bool
  | ⟨_, .call (.detach v _), .ok _, _⟩ => v == w
  | _ => false

/-- The external runtime is asked to repack a worker. -/
def repacks (w : Nat) : Event → Bool
  | ⟨_, .call (.repack v), _, _⟩ => v == w
  | _ => false

/-- What a worker is marked as: attached or detached. -/
def marks (w : Nat) : Event → Option Bool
  | ⟨_, .access (.storeAttached v attached), _, _⟩ => if v = w then some attached else none
  | _ => none

end Event

lemma Action.asksAway_of_not_isAbout {w : Nat} {a : Action} (h : a.isAbout w = false) :
    a.asksAway w = false := by
  rcases a with a | p | c
  · rfl
  · rfl
  · cases c <;> first | rfl | exact h

/-- The marks of a worker decide whether it is attached. -/
lemma writtenBy_isAttached (w : Nat) :
    WrittenBy (fun s => (s.workers w).isAttached) (Event.marks w) where
  effect e s s' heff := by
    obtain ⟨t, a, x, before⟩ := e
    by_cases hwrites : a.writesWorker w = true
    · rcases a with a | p | c
      · cases a with
        | storeAttached v attached =>
            obtain rfl : v = w := beq_iff_eq.mp hwrites
            obtain ⟨-, rfl⟩ := effect_access.mp heff
            simp [Event.marks, Access.perform, Shared.onWorker]
        | countRepack v =>
            obtain rfl : v = w := beq_iff_eq.mp hwrites
            obtain ⟨-, rfl⟩ := effect_access.mp heff
            simp [Event.marks, Access.perform, Shared.onWorker]
        | _ => cases hwrites
      · cases hwrites
      · cases hwrites
    · rw [Bool.not_eq_true] at hwrites
      have hnone : Event.marks w ⟨t, a, x, before⟩ = none := by
        rcases a with a | p | c
        · cases a with
          | storeAttached v attached => exact if_neg (beq_eq_false_iff_ne.mp hwrites)
          | _ => rfl
        · rfl
        · rfl
      rw [hnone]
      exact congrArg Worker.isAttached (keeps_worker hwrites _ _ _ _ heff)
  lock s holder := rfl

/-- Only an attached worker is found attached. -/
lemma Event.isAttached_of_finds {w : Nat} {e : Event} {s s' : Shared} (he : e.finds w = true)
    (heff : Effect e.thread s e.action e.answer s') : (s.workers w).isAttached = true := by
  obtain ⟨t, a, x, before⟩ := e
  rcases a with a | p | c
  · cases a with
    | readAttached v =>
        obtain ⟨hv, hx⟩ := (Bool.and_eq_true _ _).mp he
        obtain rfl := beq_iff_eq.mp hv
        exact (effect_access.mp heff).1.symm.trans hx
    | _ => cases he
  · cases he
  · cases he

lemma Event.isAbout_of_marks {w : Nat} {e : Event} {attached : Bool}
    (he : e.marks w = some attached) : e.action.isAbout w = true := by
  obtain ⟨t, a, x, before⟩ := e
  rcases a with a | p | c
  · cases a with
    | storeAttached v b =>
        by_cases hv : v = w
        · exact beq_iff_eq.mpr hv
        · simp [marks, hv] at he
    | _ => cases he
  · cases he
  · cases he

/-! ### The conduct of the hooks -/

/-- What a thread has to do with a worker: nothing, it has just found the worker attached, or it
owes the mark of a detach. -/
inductive Vouch
  | idle
  | found
  | owing
deriving DecidableEq

/-- Only who found a worker attached, and did nothing about the worker since, asks the external
runtime to detach or repack it; whoever detached it marks it next. -/
def vouchConduct (w : Nat) : Conduct Vouch where
  after
    | k, .access (.readAttached v), (attached : Bool) =>
        if v = w then (if attached then .found else .idle) else k
    | k, .access (.storeAttached v _), _ => if v = w then .idle else k
    | k, .call (.detach v _), (x : Except ServiceError Unit) =>
        if v = w then (if x.isOk then .owing else .idle) else k
    | k, .call (.repack v), _ => if v = w then .idle else k
    | k, _, _ => k
  asks k a :=
    (a.asksAway w = true → k = .found) ∧ (k = .owing → a = .access (.storeAttached w false))

section Conduct

variable {w : Nat} {k : Vouch}

/-- What is not about the worker changes nothing. -/
lemma after_of_not_isAbout {a : Action} (h : a.isAbout w = false) (x : a.Answer) :
    (vouchConduct w).after k a x = k := by
  rcases a with a | p | c
  · cases a with
    | readAttached v | storeAttached v _ => exact if_neg (beq_eq_false_iff_ne.mp h)
    | _ => rfl
  · rfl
  · cases c with
    | detach v _ | repack v => exact if_neg (beq_eq_false_iff_ne.mp h)
    | _ => rfl

/-- Only a detach leaves something to be marked. -/
lemma after_ne_owing {a : Action} (hk : k ≠ .owing) (h : a.asksAway w = false) (x : a.Answer) :
    (vouchConduct w).after k a x ≠ .owing := by
  by_cases habout : a.isAbout w = true
  · rcases a with a | p | c
    · cases a with
      | readAttached v =>
          obtain rfl : v = w := beq_iff_eq.mp habout
          simp only [vouchConduct, if_true]
          split <;> exact Vouch.noConfusion
      | storeAttached v _ =>
          obtain rfl : v = w := beq_iff_eq.mp habout
          simp only [vouchConduct, if_true]
          exact Vouch.noConfusion
      | _ => cases habout
    · cases habout
    · cases c with
      | detach v _ | repack v => exact absurd (habout.symm.trans h) Bool.noConfusion
      | _ => cases habout
  · rw [Bool.not_eq_true] at habout
    rwa [after_of_not_isAbout habout]

/-- Who has just found the worker attached did so last of all about it. -/
lemma finds_of_after {e : Event}
    (h : (vouchConduct w).after k e.action e.answer = .found) :
    e.finds w = true ∨ e.action.isAbout w = false ∧ k = .found := by
  by_cases habout : e.action.isAbout w = true
  · obtain ⟨t, a, x, before⟩ := e
    rcases a with a | p | c
    · cases a with
      | readAttached v =>
          obtain rfl : v = w := beq_iff_eq.mp habout
          cases x with
          | false => simp [vouchConduct] at h
          | true => exact .inl (by simp [Event.finds])
      | storeAttached v _ =>
          obtain rfl : v = w := beq_iff_eq.mp habout
          simp [vouchConduct] at h
      | _ => cases habout
    · cases habout
    · cases c with
      | detach v _ =>
          obtain rfl : v = w := beq_iff_eq.mp habout
          cases x <;> simp [vouchConduct, Except.isOk, Except.toBool] at h
      | repack v =>
          obtain rfl : v = w := beq_iff_eq.mp habout
          simp [vouchConduct] at h
      | _ => cases habout
  · rw [Bool.not_eq_true] at habout
    rw [after_of_not_isAbout habout] at h
    exact .inr ⟨habout, h⟩

lemma exists_of_run_found {es : List Event} (h : (vouchConduct w).run .idle es = .found) :
    ∃ l r l', es = l ++ r :: l' ∧ r.finds w = true ∧ ∀ e ∈ l', e.action.isAbout w = false := by
  induction es using List.reverseRecOn with
  | nil => cases h
  | append_singleton es e ih =>
      rw [Conduct.run_append] at h
      rcases finds_of_after h with hfinds | ⟨habout, hfound⟩
      · exact ⟨es, e, [], rfl, hfinds, by simp⟩
      · obtain ⟨l, r, l', rfl, hr, hl'⟩ := ih hfound
        refine ⟨l, r, l' ++ [e], by simp, hr, fun x hx => ?_⟩
        rcases List.mem_append.mp hx with hx | hx
        · exact hl' x hx
        · rwa [List.mem_singleton.mp hx]

/-- After a detach its mark is owed. -/
lemma after_detaches {e : Event} (he : e.detaches w = true) :
    (vouchConduct w).after k e.action e.answer = .owing := by
  obtain ⟨t, a, x, before⟩ := e
  rcases a with a | p | c
  · cases he
  · cases he
  · cases c with
    | detach v reason =>
        cases x with
        | error _ => cases he
        | ok _ =>
            obtain rfl : v = w := beq_iff_eq.mp he
            simp [vouchConduct, Except.isOk, Except.toBool]
    | _ => cases he

namespace Routine

variable {α : Type}

/-- What is not about the worker may be done by who owes nothing. -/
lemma vouches_of_not_isAbout {r : Routine α} (hr : r.Only (·.isAbout w = false)) (hk : k ≠ .owing) :
    r.Heeds (vouchConduct w) k fun _ k' => k' = k := by
  induction r with
  | done a => rfl
  | act a next ih =>
      refine ⟨⟨fun haway => ?_, fun howing => absurd howing hk⟩, fun x => ?_⟩
      · simp [Action.asksAway_of_not_isAbout hr.1] at haway
      · rw [after_of_not_isAbout hr.1]
        exact ih x (hr.2 x)
  | more => trivial

/-- Marks and tests may be done by who owes nothing. -/
lemma vouches_of_not_asksAway {r : Routine α} (hr : r.Only (·.asksAway w = false))
    (hk : k ≠ .owing) : r.Heeds (vouchConduct w) k fun _ k' => k' ≠ .owing := by
  induction r generalizing k with
  | done a => exact hk
  | act a next ih =>
      refine ⟨⟨fun haway => ?_, fun howing => absurd howing hk⟩, fun x => ?_⟩
      · simp [hr.1] at haway
      · exact ih x (hr.2 x) (after_ne_owing hk hr.1 x)
  | more => trivial

/-! ### The hooks -/

section Hooks

variable {v : Nat}

lemma isAbout_of_isVisit (a : Action) (h : a.isVisit = true) : a.isAbout w = false := by
  cases h using Action.isVisit_cases <;> rfl

lemma isAbout_of_isLocking (a : Action) (h : a.isLocking = true) : a.isAbout w = false :=
  isAbout_of_isVisit a (Action.isVisit_of_isLocking h)

lemma isAbout_of_isLookout (a : Action) (h : a.isLookout = true) : a.isAbout w = false := by
  cases h using Action.isLookout_cases <;> rfl

/-- Who found the worker attached may have it detached, and marks it after a success. -/
lemma vouches_detach (hfound : v = w → k = .found) (hk : k ≠ .owing) (reason : String) :
    (detach v reason).Heeds (vouchConduct w) k fun _ k' => k' ≠ .owing := by
  by_cases hv : v = w
  · subst hv
    refine ⟨⟨fun _ => hfound rfl, fun howing => absurd howing hk⟩, fun x => ?_⟩
    cases x with
    | error e =>
        change (vouchConduct v).after k (.call (.detach v reason)) (.error e) ≠ .owing
        simp [vouchConduct, Except.isOk, Except.toBool]
    | ok _ =>
        refine ⟨⟨nofun, fun _ => rfl⟩, fun _ => ?_⟩
        change (vouchConduct v).after _ (.access (.storeAttached v false)) _ ≠ .owing
        simp [vouchConduct]
  · refine vouches_of_not_asksAway ⟨beq_eq_false_iff_ne.mpr hv, fun x => ?_⟩ hk
    cases x with
    | error e => trivial
    | ok _ => exact ⟨rfl, fun _ => trivial⟩

/-- Who found the worker attached may have it repacked. -/
lemma vouches_repack (hfound : v = w → k = .found) (hk : k ≠ .owing) :
    (repack v).Heeds (vouchConduct w) k fun _ k' => k' ≠ .owing := by
  by_cases hv : v = w
  · subst hv
    have hafter (x) : (vouchConduct v).after k (.call (.repack v)) x ≠ .owing := by
      simp [vouchConduct]
    refine ⟨⟨fun _ => hfound rfl, fun howing => absurd howing hk⟩, fun x => ?_⟩
    cases x with
    | error e => exact hafter _
    | ok _ =>
        refine ⟨⟨nofun, fun howing => absurd howing (hafter _)⟩, fun _ => ?_⟩
        exact after_ne_owing (hafter _) rfl _
  · refine vouches_of_not_asksAway ⟨beq_eq_false_iff_ne.mpr hv, fun x => ?_⟩ hk
    cases x with
    | error e => trivial
    | ok _ => exact ⟨rfl, fun _ => trivial⟩

lemma vouches_afterWait (hfound : v = w → k = .found) (hk : k ≠ .owing) (outcome : WaitOutcome) :
    (afterWait v outcome).Heeds (vouchConduct w) k fun _ k' => k' ≠ .owing := by
  cases outcome with
  | timedOut =>
      refine (vouches_detach hfound hk _).bind fun x k' hk' => ?_
      cases x <;> exact hk'
  | notified =>
      refine (vouches_repack hfound hk).bind fun x k' hk' => ?_
      cases x <;> exact hk'

lemma vouches_lock (hk : k ≠ .owing) :
    lock.Heeds (vouchConduct w) k fun _ k' => k' = k :=
  vouches_of_not_isAbout (only_lock isAbout_of_isLocking) hk

lemma vouches_unlock (hk : k ≠ .owing) :
    unlock.Heeds (vouchConduct w) k fun _ k' => k' = k :=
  vouches_of_not_isAbout (only_unlock isAbout_of_isLocking) hk

lemma vouches_waitForWork (hk : k ≠ .owing) (millis : Nat) :
    (waitForWork millis).Heeds (vouchConduct w) k fun _ k' => k' = k :=
  vouches_of_not_isAbout (only_waitForWork isAbout_of_isLookout millis) hk

lemma vouches_idleOut (hfound : v = w → k = .found) (hk : k ≠ .owing) (delay : Nat) :
    (idleOut v delay).Heeds (vouchConduct w) k fun _ k' => k' ≠ .owing := by
  refine (vouches_waitForWork hk delay).bind fun outcome k' hk' => ?_
  subst hk'
  refine (vouches_unlock hk).bind fun _ k' hk' => ?_
  subst hk'
  refine (vouches_afterWait hfound hk outcome).bind fun x k' hk' => ?_
  cases x with
  | error e => exact hk'
  | ok action => exact (vouches_lock hk').bind fun _ k'' hk'' => hk''.symm ▸ hk'

/-- What a test of a worker leaves that found it attached. -/
lemma after_found (hk : k ≠ .owing) :
    (v = w → (vouchConduct w).after k (.access (.readAttached v)) true = .found) ∧
      (vouchConduct w).after k (.access (.readAttached v)) true ≠ .owing :=
  ⟨fun hv => by simp [vouchConduct, hv], after_ne_owing hk rfl _⟩

lemma vouches_onEmptyQueue (hk : k ≠ .owing) (c : Config) (v : Nat) :
    (onEmptyQueue c v).Heeds (vouchConduct w) k fun _ k' => k' ≠ .owing := by
  rw [onEmptyQueue]
  split
  · refine ⟨⟨fun hasks => absurd hasks Bool.false_ne_true, fun howing => absurd howing hk⟩,
      fun attached => ?_⟩
    cases attached with
    | false => exact after_ne_owing hk rfl _
    | true =>
        obtain ⟨hfound, hk'⟩ := after_found (v := v) (w := w) hk
        generalize (vouchConduct w).after k (.access (.readAttached v)) true = k' at hfound hk' ⊢
        cases hdelay : c.idleDelay with
        | none => exact hk'
        | some delay =>
            refine ⟨⟨fun hasks => absurd hasks Bool.false_ne_true, fun howing => absurd howing hk'⟩,
              fun uptime => ?_⟩
            rw [after_of_not_isAbout rfl]
            simp only [done_bind]
            split
            · exact hk'
            · exact vouches_idleOut hfound hk' delay
  · exact hk

lemma vouches_stopping (hk : k ≠ .owing) (c : Config) (v : Nat) :
    (stopping c v).Heeds (vouchConduct w) k fun _ k' => k' ≠ .owing := by
  rw [stopping]
  split
  · refine ⟨⟨fun hasks => absurd hasks Bool.false_ne_true, fun howing => absurd howing hk⟩,
      fun attached => ?_⟩
    cases attached with
    | false => exact after_ne_owing hk rfl _
    | true =>
        obtain ⟨hfound, hk'⟩ := after_found (v := v) (w := w) hk
        generalize (vouchConduct w).after k (.access (.readAttached v)) true = k' at hfound hk' ⊢
        refine (vouches_unlock hk').bind fun _ k'' hk'' => ?_
        subst hk''
        refine (vouches_detach hfound hk' _).bind fun x k'' hk'' => ?_
        cases x with
        | error e => exact hk''
        | ok _ => exact (vouches_lock hk'').bind fun _ k₁ hk₁ => hk₁.symm ▸ hk''
  · exact hk

/-! ### The loop -/

lemma asksAway_of_isChore (a : Action) (h : a.isChore v = true) : a.asksAway w = false := by
  cases h using Action.isChore_cases <;> rfl

lemma vouches_workRounds (hk : k ≠ .owing) (c : Config) (v compileMillis rounds : Nat)
    (s : Summary) :
    (workRounds c v compileMillis rounds s).Heeds (vouchConduct w) k fun _ k' => k' ≠ .owing := by
  induction rounds generalizing s k with
  | zero => trivial
  | succ n ih =>
      refine (vouches_of_not_isAbout (only_access.mpr rfl) hk).bind fun task k' hk' => ?_
      subst hk'
      cases task with
      | some t =>
          refine (vouches_unlock hk).bind fun _ k' hk' => ?_
          subst hk'
          refine (vouches_of_not_asksAway (only_compile asksAway_of_isChore c compileMillis t s)
            hk).bind fun s k' hk' => ?_
          refine (vouches_lock hk').bind fun _ k'' hk'' => ?_
          subst hk''
          exact ih hk' s
      | none =>
          refine (vouches_of_not_isAbout (only_access.mpr rfl) hk).bind fun closed k' hk' => ?_
          subst hk'
          cases closed with
          | true =>
              refine (vouches_stopping hk c v).bind fun x k' hk' => ?_
              cases x with
              | error e => exact hk'
              | ok _ => exact (vouches_unlock hk').bind fun _ k'' hk'' => hk''.symm ▸ hk'
          | false =>
              refine (vouches_onEmptyQueue hk c v).bind fun x k' hk' => ?_
              cases x with
              | error e => exact hk'
              | ok action =>
                  cases action with
                  | none =>
                      refine (vouches_of_not_isAbout (only_lookAgain isAbout_of_isLookout)
                        hk').bind fun _ k'' hk'' => ?_
                      subst hk''
                      exact ih hk' _
                  | detached | repacked => exact ih hk' _

end Hooks

end Routine

/-! ### Programs -/

lemma Operation.vouches {α : Type} {held : Bool} {r : Routine α} {keeps : α → Bool}
    (h : Operation held r keeps) (hk : k ≠ .owing) :
    r.Heeds (vouchConduct w) k fun _ k' => k' ≠ .owing := by
  have hquiet : ∀ {β : Type} {q : Routine β}, q.Only (·.isAbout w = false) →
      q.Heeds (vouchConduct w) k fun _ k' => k' ≠ .owing := fun hq =>
    (Routine.vouches_of_not_isAbout hq hk).mono fun _ k' hk' => hk'.symm ▸ hk
  cases h with
  | lock => exact hquiet (Routine.only_lock Routine.isAbout_of_isLocking)
  | unlock => exact hquiet (Routine.only_unlock Routine.isAbout_of_isLocking)
  | submit t => exact hquiet (Routine.only_submit Routine.isAbout_of_isVisit t)
  | size tier => exact hquiet (Routine.only_size Routine.isAbout_of_isLocking rfl)
  | length => exact hquiet (Routine.only_length Routine.isAbout_of_isLocking rfl)
  | close => exact hquiet (Routine.only_close Routine.isAbout_of_isLocking rfl)
  | @visit a ha =>
      refine hquiet (Routine.only_access.mpr ?_)
      cases a <;> first | rfl | cases ha
  | wait millis => exact hquiet (Routine.only_waitForWork Routine.isAbout_of_isLookout millis)
  | onEmptyQueue c v => exact Routine.vouches_onEmptyQueue hk c v
  | stopping c v => exact Routine.vouches_stopping hk c v
  | work rounds c v compileMillis =>
      refine (Routine.vouches_lock hk).bind fun _ k' hk' => ?_
      subst hk'
      exact Routine.vouches_workRounds hk c v compileMillis rounds {}

/-- All programs keep to the conduct. -/
lemma Client.vouches {held : Bool} {r : Routine Unit} (h : Client held r) (hk : k ≠ .owing) :
    r.Heeds (vouchConduct w) k fun _ k' => k' ≠ .owing := by
  induction h generalizing k with
  | done => exact hk
  | more => trivial
  | @aloof held a next ha _ ih =>
      have haway : a.asksAway w = false := by
        rcases a with a | p | c
        · rfl
        · rfl
        · cases c <;> first | rfl | cases ha
      refine ⟨⟨fun h => ?_, fun howing => absurd howing hk⟩, fun x => ?_⟩
      · simp [haway] at h
      · exact ih x (after_ne_owing hk haway x)
  | operate hr _ ih => exact (hr.vouches hk).bind fun x k' hk' => ih x hk'

end Conduct

/-! ### Every run -/

/-- After the events `g` the last that a thread had to do with a worker was the test `r`, which
found it attached; `g₁` came before the test, and `g₂` since. -/
structure LastFound (w : Nat) (t : ThreadId) (g g₁ : List Event) (r : Event) (g₂ : List Event) :
    Prop where
  split : g = g₁ ++ r :: g₂
  thread : r.thread = t
  found : r.finds w = true
  since : ∀ x ∈ own t g₂, x.action.isAbout w = false

lemma Event.marks_of_finds {w : Nat} {e : Event} (he : e.finds w = true) : e.marks w = none := by
  obtain ⟨t, a, x, before⟩ := e
  rcases a with a | p | c
  · cases a <;> first | rfl | cases he
  · rfl
  · rfl

lemma Event.asksAway_of_detaches {w : Nat} {e : Event} (he : e.detaches w = true) :
    e.action.asksAway w = true := by
  obtain ⟨t, a, x, before⟩ := e
  rcases a with a | p | c
  · cases he
  · cases he
  · cases c with
    | detach v reason => cases x <;> first | exact he | cases he
    | _ => cases he

lemma Event.isAbout_of_detaches {w : Nat} {e : Event} (he : e.detaches w = true) :
    e.action.isAbout w = true ∧ e.finds w = false := by
  obtain ⟨t, a, x, before⟩ := e
  rcases a with a | p | c
  · cases he
  · cases he
  · cases c with
    | detach v reason => cases x <;> first | exact ⟨he, rfl⟩ | cases he
    | _ => cases he

/-- The last test of a thread follows what else it did about the worker. -/
lemma LastFound.exists_of_isAbout {w : Nat} {t : ThreadId} {g k g₁ g₂ : List Event} {e r : Event}
    (hlast : LastFound w t (g ++ e :: k) g₁ r g₂) (ht : e.thread = t)
    (habout : e.action.isAbout w = true) (hfinds : e.finds w = false) :
    ∃ a, g₁ = g ++ e :: a ∧ k = a ++ r :: g₂ := by
  have hne : e ≠ r := by
    rintro rfl
    simp [hlast.found] at hfinds
  have hsince : e ∉ g₂ := fun hmem => by
    simp [hlast.since e (mem_own.mpr ⟨hmem, ht⟩)] at habout
  obtain ⟨m, rfl, hrest⟩ | ⟨m, rfl, hrest⟩ := List.append_eq_append_iff.mp hlast.split
  · cases m with
    | nil => exact absurd (List.cons_eq_cons.mp hrest).1 hne
    | cons e' a =>
        obtain ⟨rfl, rfl⟩ := List.cons_eq_cons.mp hrest
        exact ⟨a, rfl, rfl⟩
  · cases m with
    | nil => exact absurd (List.cons_eq_cons.mp hrest).1.symm hne
    | cons r' b =>
        obtain ⟨rfl, rfl⟩ := List.cons_eq_cons.mp hrest
        exact absurd (by simp) hsince

section Runs

variable {w : Nat} {P Q : System}

/-- A worker that was marked as detached is not found attached before it is marked as attached. -/
lemma not_finds_of_marks {g k g' : List Event} {m r : Event}
    (hrun : System.Run P (g ++ m :: (k ++ r :: g')) Q) (hm : m.marks w = some false)
    (hk : ∀ x ∈ k, x.marks w ≠ some true) : r.finds w = false := by
  have hrun' : System.Run P ((g ++ m :: k) ++ r :: g') Q := by simpa using hrun
  obtain ⟨R, R', hR, hstep, -⟩ := hrun'.at_event
  have hdetached : (R.shared.workers w).isAttached = false := by
    rw [hR.written (writtenBy_isAttached w), lastWrite_append_cons hm]
    refine lastWrite_induct (p := (· = false)) rfl fun x hx attached hmark => ?_
    cases attached with
    | false => rfl
    | true => exact absurd hmark (hk x hx)
  by_contra hfinds
  rw [Bool.not_eq_false] at hfinds
  simp [Event.isAttached_of_finds hfinds hstep.effect] at hdetached

/-- When a worker is tested and nothing is known since but marks, these decide whether it is
attached. -/
lemma isAttached_since {t : ThreadId} {g g₁ g₂ : List Event} {r : Event}
    (hrun : System.Run P g Q) (hlast : LastFound w t g g₁ r g₂) :
    (Q.shared.workers w).isAttached = false ↔ ∃ a m b, g₂ = a ++ m :: b ∧ m.thread ≠ t ∧
      m.marks w = some false ∧ ∀ x ∈ b, x.marks w = none := by
  obtain ⟨rfl, hthread, hfound, hsince⟩ := hlast
  obtain ⟨R, R', hR, hstep, hrest⟩ := hrun.at_event
  have hattached : (R'.shared.workers w).isAttached = true := by
    rw [(writtenBy_isAttached w).effect r _ _ hstep.effect, Event.marks_of_finds hfound]
    exact Event.isAttached_of_finds hfound hstep.effect
  have hstate := hrest.written (writtenBy_isAttached w)
  simp only [hattached] at hstate
  rw [hstate]
  constructor
  · intro hfalse
    obtain ⟨hlast, -⟩ | ⟨a, m, b, attached, rfl, hm, hb, hlast⟩ :=
      lastWrite_cases (Event.marks w) true g₂
    · simp [hlast] at hfalse
    · obtain rfl : attached = false := hlast.symm.trans hfalse
      refine ⟨a, m, b, rfl, fun ht => ?_, hm, hb⟩
      have habout := hsince m (mem_own.mpr ⟨by simp, ht⟩)
      simp [Event.isAbout_of_marks hm] at habout
  · rintro ⟨a, m, b, rfl, -, hm, hb⟩
    rw [lastWrite_append_cons hm]
    exact lastWrite_induct (p := (· = false)) rfl fun x hx c hc => by simp [hb x hx] at hc

variable (hclients : ∀ t, Client false (P.threads t))

include hclients

/-- **Each call has a test before it.** -/
lemma exists_lastFound {g g' : List Event} {e : Event} (hrun : System.Run P (g ++ e :: g') Q)
    (he : e.action.asksAway w = true) : ∃ g₁ r g₂, LastFound w e.thread g g₁ r g₂ := by
  obtain ⟨R, R', hR, hstep, -⟩ := hrun.at_event
  have hheeds := (hclients e.thread).vouches (w := w) (k := .idle) Vouch.noConfusion
  obtain ⟨l, r, l', hown, hr, hl'⟩ :=
    exists_of_run_found ((hR.asked hstep hheeds).1 he)
  obtain ⟨g₁, g₂, rfl, rfl, rfl⟩ := exists_of_own_eq_append_cons hown
  have hmem : r ∈ own e.thread (g₁ ++ r :: g₂) := by simp [hown]
  exact ⟨g₁, r, g₂, rfl, (mem_own.mp hmem).2, hr, hl'⟩

/-- Whoever had a worker detached marks it next. -/
lemma marks_of_detaches {g k g' : List Event} {e m : Event}
    (hrun : System.Run P (g ++ e :: (k ++ m :: g')) Q) (he : e.detaches w = true)
    (hm : m.thread = e.thread) (hk : own e.thread k = []) : m.marks w = some false := by
  have hrun' : System.Run P ((g ++ e :: k) ++ m :: g') Q := by simpa using hrun
  obtain ⟨R, R', hR, hstep, -⟩ := hrun'.at_event
  have hheeds := (hclients m.thread).vouches (w := w) (k := .idle) Vouch.noConfusion
  have howing : (vouchConduct w).run .idle (own m.thread (g ++ e :: k)) = .owing := by
    rw [hm, own_append, own_cons_self rfl, hk, Conduct.run_append]
    exact after_detaches he
  have haction := (hR.asked hstep hheeds).2 howing
  obtain ⟨u, a, x, before⟩ := m
  obtain rfl : a = .access (.storeAttached w false) := haction
  exact if_pos rfl

/-- A test that succeeds after a detach, before the worker is marked as attached, comes before
anything else that the thread of the detach does. -/
lemma own_eq_nil_of_detaches {g a g' : List Event} {e r : Event}
    (hrun : System.Run P (g ++ e :: (a ++ r :: g')) Q) (he : e.detaches w = true)
    (hr : r.finds w = true) (hunmarked : ∀ x ∈ a, x.marks w ≠ some true) :
    own e.thread a = [] := by
  cases hown : own e.thread a with
  | nil => rfl
  | cons m l =>
      have hm : m.thread = e.thread := (mem_own.mp (hown ▸ List.mem_cons_self)).2
      obtain ⟨a₁, a₂, rfl, ha₁, -⟩ :=
        exists_of_own_eq_append_cons (hown.trans (List.nil_append _).symm)
      have hdetached : System.Run P (g ++ e :: (a₁ ++ m :: (a₂ ++ r :: g'))) Q := by
        simpa using hrun
      have hfound : System.Run P ((g ++ e :: a₁) ++ m :: (a₂ ++ r :: g')) Q := by
        simpa using hrun
      have hfinds : r.finds w = false :=
        not_finds_of_marks hfound (marks_of_detaches hclients hdetached he hm ha₁)
          fun x hx => hunmarked x (by simp [hx])
      exact absurd (hr.symm.trans hfinds) Bool.noConfusion

/-- **A call finds its worker attached unless another thread came in between.** Threads run any
operations on the queue and any hooks of any workers, and mark workers as attached or detached. A
thread that asks the external runtime to detach or repack a worker found it attached before, and did
nothing about it since. At the call the worker is detached exactly when another thread marked it as
detached after the test and nobody marked it since. And where a worker was detached and the runtime
is asked again before it is marked as attached, another thread does so, which had found the worker
attached before the first thread marked it. -/
theorem attached_unless_overtaken {h : List Event} (hrun : System.Run P h Q) :
    (∀ g e g', h = g ++ e :: g' → e.action.asksAway w = true →
      ∃ g₁ r g₂, LastFound w e.thread g g₁ r g₂ ∧
        ((e.before.workers w).isAttached = false ↔ ∃ a m b, g₂ = a ++ m :: b ∧
          m.thread ≠ e.thread ∧ m.marks w = some false ∧ ∀ x ∈ b, x.marks w = none)) ∧
    ∀ g e k e' g', h = g ++ e :: (k ++ e' :: g') → e.detaches w = true →
      e'.action.asksAway w = true → (∀ x ∈ k, x.marks w ≠ some true) →
      e'.thread ≠ e.thread ∧ ∃ g₁ r g₂, LastFound w e'.thread (g ++ e :: k) g₁ r g₂ ∧
        ∀ a, g₁ = g ++ e :: a → own e.thread a = [] := by
  refine ⟨?_, ?_⟩
  · rintro g e g' rfl he
    obtain ⟨g₁, r, g₂, hlast⟩ := exists_lastFound hclients hrun he
    obtain ⟨R, R', hR, hstep, -⟩ := hrun.at_event
    rw [hstep.before]
    exact ⟨g₁, r, g₂, hlast, isAttached_since hR hlast⟩
  · rintro g e k e' g' rfl he he' hk
    obtain ⟨g₁, r, g₂, hlast⟩ := exists_lastFound (g := g ++ e :: k) hclients
      (by simpa using hrun) he'
    have hsplit : ∀ a, k = a ++ r :: g₂ →
        System.Run P (g ++ e :: (a ++ r :: (g₂ ++ e' :: g'))) Q := by
      rintro a rfl
      simpa using hrun
    have hidle : ∀ a, k = a ++ r :: g₂ → own e.thread a = [] := fun a ha =>
      own_eq_nil_of_detaches hclients (hsplit a ha) he hlast.found fun x hx =>
        hk x (by simp [ha, hx])
    refine ⟨fun hthread => ?_, g₁, r, g₂, hlast, ?_⟩
    · -- the mark that the thread owes would come before its own test
      obtain ⟨habout, hfinds⟩ := Event.isAbout_of_detaches he
      obtain ⟨a, rfl, rfl⟩ := hlast.exists_of_isAbout hthread.symm habout hfinds
      have hmarks : r.marks w = some false :=
        marks_of_detaches hclients (hsplit a rfl) he (hlast.thread.trans hthread) (hidle a rfl)
      simp [Event.marks_of_finds hlast.found] at hmarks
    · rintro a rfl
      exact hidle a (by simpa using hlast.split)

end Runs

/-! ### A worker that is stopped while it waits -/

/-- What a hook leaves of the lock is given back. -/
def unlockAfter {α : Type} (x : Except ServiceError α) : Routine Unit :=
  if x.isOk then Routine.unlock.bind fun _ => .done () else .done ()

/-- A worker that finds the queue empty, a thread that stops this worker, and one that submits a
task. -/
def stoppedWorker : System where
  shared := {}
  threads
    | 1 => Routine.lock.bind fun _ => (Routine.onEmptyQueue hostedConfig 7).bind unlockAfter
    | 2 => Routine.lock.bind fun _ => (Routine.stopping hostedConfig 7).bind unlockAfter
    | 3 => (Routine.submit plainTask).bind fun _ => .done ()
    | _ => .done ()

/-- The worker is stopped while it waits, and then its wait is over. -/
def stoppedInWait : List Event × System :=
  stoppedWorker.play Call.silence
    (List.replicate 8 1 ++ List.replicate 11 2 ++ List.replicate 10 1)

/-- The worker is stopped while it waits, and then a task is submitted. -/
def stoppedBeforeTask : List Event × System :=
  stoppedWorker.play Call.silence
    (List.replicate 8 1 ++ List.replicate 11 2 ++ List.replicate 7 3 ++ List.replicate 10 1)

lemma client_unlockAfter {α : Type} (x : Except ServiceError α) :
    Client x.isOk (unlockAfter x) := by
  cases x with
  | error e => exact .done
  | ok a => exact .operate .unlock fun _ => .done

lemma client_stoppedWorker (t : ThreadId) : Client false (stoppedWorker.threads t) := by
  simp only [stoppedWorker]
  split
  · exact .operate .lock fun _ => .operate (.onEmptyQueue _ _) client_unlockAfter
  · exact .operate .lock fun _ => .operate (.stopping _ _) client_unlockAfter
  · exact .operate (.submit _) fun _ => .done
  · exact .done

/-- The detached worker is detached again, by another thread, because it was marked after this
thread's test. -/
theorem attached_unless_overtaken_stopped : ∃ e ∈ stoppedInWait.1, ∃ e' ∈ stoppedInWait.1,
    e.detaches 7 = true ∧ e'.detaches 7 = true ∧ (e'.before.workers 7).isAttached = false ∧
    e'.thread ≠ e.thread ∧
    ∃ m ∈ stoppedInWait.1, m.marks 7 = some false ∧ m.thread ≠ e'.thread := by
  have hrun : System.Run stoppedWorker stoppedInWait.1 stoppedInWait.2 := System.run_play _ _ _
  obtain ⟨e, he, hdetaches⟩ : ∃ e ∈ stoppedInWait.1.take 16, e.detaches 7 = true := by
    decide +kernel
  obtain ⟨e', he', hagain, hdetached⟩ : ∃ e' ∈ stoppedInWait.1.drop 16, e'.detaches 7 = true ∧
      (e'.before.workers 7).isAttached = false := by decide +kernel
  have hunmarked : ∀ x ∈ stoppedInWait.1, x.marks 7 ≠ some true := by decide +kernel
  obtain ⟨g, k, hg⟩ := List.append_of_mem he
  obtain ⟨k', g', hg'⟩ := List.append_of_mem he'
  have hsplit : stoppedInWait.1 = g ++ e :: ((k ++ k') ++ e' :: g') := by
    rw [← List.take_append_drop 16 stoppedInWait.1, hg, hg']
    simp
  have hcall : e'.action.asksAway 7 = true := Event.asksAway_of_detaches hagain
  obtain ⟨htested, htwice⟩ := attached_unless_overtaken (w := 7) client_stoppedWorker hrun
  have hbetween : ∀ x ∈ k ++ k', x.marks 7 ≠ some true := fun x hx =>
    hunmarked x (hsplit ▸ List.mem_append_right g
      (List.mem_cons_of_mem e (List.mem_append_left _ hx)))
  obtain ⟨hthread, -⟩ := htwice g e (k ++ k') e' g' hsplit hdetaches hcall hbetween
  have hsplit' : stoppedInWait.1 = (g ++ e :: (k ++ k')) ++ e' :: g' := by simp [hsplit]
  obtain ⟨g₁, r, g₂, hlast, hiff⟩ := htested _ e' g' hsplit' hcall
  obtain ⟨a, m, b, rfl, hother, hmark, -⟩ := hiff.mp hdetached
  refine ⟨e, by simp [hsplit], e', by simp [hsplit], hdetaches, hagain, hdetached, hthread, m, ?_,
    hmark, hother⟩
  rw [hsplit', hlast.split]
  simp

/-- **The external runtime is asked to detach a worker that it has detached already, and to repack a
worker that it has detached**, if the worker is stopped while it waits. -/
theorem overtaken :
    (∃ h Q, System.Run stoppedWorker h Q ∧ h.countP (·.detaches 7) = 2 ∧
      (∀ e ∈ h, e.marks 7 ≠ some true) ∧
      ∃ e ∈ h, e.detaches 7 = true ∧ (e.before.workers 7).isAttached = false) ∧
    ∃ h Q, System.Run stoppedWorker h Q ∧
      ∃ e ∈ h, e.repacks 7 = true ∧ (e.before.workers 7).isAttached = false := by
  have hwait : System.Run stoppedWorker stoppedInWait.1 stoppedInWait.2 := System.run_play _ _ _
  have htask : System.Run stoppedWorker stoppedBeforeTask.1 stoppedBeforeTask.2 :=
    System.run_play _ _ _
  refine ⟨⟨_, _, hwait, ?_, ?_, ?_⟩, ⟨_, _, htask, ?_⟩⟩ <;> decide +kernel

end ExternalCompiler
