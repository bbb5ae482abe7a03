/-
The lifecycle hooks and the worker loop keep to the discipline of the queue lock:

* `obeys_onEmptyQueue`, `obeys_stopping`: a hook hands the lock back after a success and leaves it
  free after a failure;
* `Action.isChore`, `Action.isChore_cases`, `only_compile`: taking up a task needs no lock;
* `obeys_work`: a compiler thread begins and ends without the lock.
-/
import ExternalCompiler.Worker.Loop
import ExternalCompiler.Proofs.Queue.Discipline

namespace ExternalCompiler

namespace Action

/-- What belongs to taking up a task by the worker `v`: the window, the gate, the connection of this
worker, the clock and the counters. -/
def isChore (v : Nat) : Action → Bool
  | .access (.readAttached w) | .access (.storeAttached w _) => w == v
  | .access .readBootstrapping | .access .setHandled | .access (.countRuntime .attaches)
  | .access (.addCounter _ _) | .pause (.sleep _) | .call .now | .call .probe
  | .call (.excluded _) => true
  | _ => false

/-- What belongs to taking up a task, action by action. -/
@[elab_as_elim]
lemma isChore_cases {v : Nat} {motive : (a : Action) → a.isChore v = true → Prop}
    (readAttached : motive (.access (.readAttached v)) (decide_eq_true rfl))
    (storeAttached : ∀ b, motive (.access (.storeAttached v b)) (decide_eq_true rfl))
    (readBootstrapping : motive (.access .readBootstrapping) rfl)
    (setHandled : motive (.access .setHandled) rfl)
    (countRuntime : motive (.access (.countRuntime .attaches)) rfl)
    (addCounter : ∀ k n, motive (.access (.addCounter k n)) rfl)
    (sleep : ∀ millis, motive (.pause (.sleep millis)) rfl) (now : motive (.call .now) rfl)
    (probe : motive (.call .probe) rfl)
    (excluded : ∀ handle, motive (.call (.excluded handle)) rfl) {a : Action}
    (h : a.isChore v = true) : motive a h := by
  unfold isChore at h
  split at h
  · obtain rfl := beq_iff_eq.mp h
    exact readAttached
  · obtain rfl := beq_iff_eq.mp h
    exact storeAttached _
  · exact readBootstrapping
  · exact setHandled
  · exact countRuntime
  · exact addCounter _ _
  · exact sleep _
  · exact now
  · exact probe
  · exact excluded _
  · cases h

lemma role_of_isChore {v : Nat} {a : Action} (h : a.isChore v = true) :
    a.role = .aloof ∨ a.role = .outward := by
  cases h using isChore_cases with
  | probe | excluded => exact .inr rfl
  | _ => exact .inl rfl

end Action

namespace Routine

/-! ### The hooks and the lock -/

/-- What a hook leaves of the lock: after a success the lock with its mark, after a failure
nothing. -/
def handedBack {α : Type} (x : Except ServiceError α) (w : Hold) : Prop :=
  w = if x.isOk then .marked else .out

section Hooks

variable {w : Hold}

/-- A call of the external runtime, from outside the lock. -/
lemma shift_outward (hw : w.isHeld = false) : w.shift .outward = some .out := by
  cases w <;> first | rfl | cases hw

lemma obeys_detach (hw : w.isHeld = false) (v : Nat) (reason : String) :
    (detach v reason).Obeys w fun _ w' => w' = .out := by
  refine ⟨.out, shift_outward hw, fun x => ?_⟩
  cases x with
  | error e => rfl
  | ok _ => exact ⟨.out, rfl, fun _ => rfl⟩

lemma obeys_repack (hw : w.isHeld = false) (v : Nat) :
    (repack v).Obeys w fun _ w' => w' = .out := by
  refine ⟨.out, shift_outward hw, fun x => ?_⟩
  cases x with
  | error e => rfl
  | ok _ => exact ⟨.out, rfl, fun _ => rfl⟩

lemma obeys_afterWait (hw : w.isHeld = false) (v : Nat) (outcome : WaitOutcome) :
    (afterWait v outcome).Obeys w fun _ w' => w' = .out := by
  cases outcome with
  | timedOut =>
      refine (obeys_detach hw v _).bind fun x w' hw' => ?_
      cases x <;> exact hw'
  | notified =>
      refine (obeys_repack hw v).bind fun x w' hw' => ?_
      cases x <;> exact hw'

lemma obeys_idleOut (v delay : Nat) : (idleOut v delay).Obeys .marked handedBack := by
  refine (obeys_waitForWork delay).bind fun outcome w' hw' => ?_
  subst hw'
  refine obeys_unlock.bind fun _ w' hw' => ?_
  subst hw'
  refine (obeys_afterWait rfl v outcome).bind fun x w' hw' => ?_
  subst hw'
  cases x with
  | error e => rfl
  | ok action => exact (obeys_lock rfl).bind fun _ w' hw' => hw'

/-- The hook for an empty queue hands the lock back, or fails and leaves it free. -/
lemma obeys_onEmptyQueue (c : Config) (v : Nat) :
    (onEmptyQueue c v).Obeys .marked handedBack := by
  rw [onEmptyQueue]
  split
  · refine ⟨.marked, rfl, fun attached => ?_⟩
    cases attached with
    | false => rfl
    | true =>
        cases hdelay : c.idleDelay with
        | none =>
            simp only [done_bind, if_true]
            rfl
        | some delay =>
            simp only [done_bind, if_true]
            refine ⟨.marked, rfl, fun uptime => ?_⟩
            simp only [done_bind]
            split
            · rfl
            · exact obeys_idleOut v delay
  · rfl

/-- The hook for a worker that stops hands the lock back, or fails and leaves it free. -/
lemma obeys_stopping (c : Config) (v : Nat) : (stopping c v).Obeys .marked handedBack := by
  rw [stopping]
  split
  · refine ⟨.marked, rfl, fun attached => ?_⟩
    cases attached with
    | false => rfl
    | true =>
        refine obeys_unlock.bind fun _ w' hw' => ?_
        subst hw'
        refine (obeys_detach rfl v _).bind fun x w' hw' => ?_
        subst hw'
        cases x with
        | error e => rfl
        | ok _ => exact (obeys_lock rfl).bind fun _ w' hw' => hw'
  · rfl

end Hooks

/-! ### The loop and the lock -/

section Loop

variable {p : Action → Prop} {v : Nat}

lemma only_record (hp : ∀ a, a.isChore v = true → p a) (l : List Addition) : (record l).Only p := by
  induction l with
  | nil => trivial
  | cons a rest ih => exact ⟨hp _ rfl, fun _ => ih⟩

lemma only_attach (hp : ∀ a, a.isChore v = true → p a) : (attach v).Only p := by
  have hread := hp (.access (.readAttached v)) (beq_self_eq_true v)
  have hstore := hp (.access (.storeAttached v true)) (beq_self_eq_true v)
  refine (only_access.mpr hread).bind fun attached => only_ite trivial ?_
  exact (only_access.mpr hstore).bind fun _ => only_access.mpr (hp _ rfl)

lemma only_connect (hp : ∀ a, a.isChore v = true → p a) (c : Config) :
    (connect c v).Only p := by
  have hread := hp (.access (.readAttached v)) (beq_self_eq_true v)
  refine only_ite ((only_access.mpr hread).bind fun attached => only_ite trivial ?_) trivial
  exact (only_attach hp).bind fun _ => only_record hp _

lemma only_addTimeSince (hp : ∀ a, a.isChore v = true → p a) (start : Nat) (timer : Counter) :
    (addTimeSince start timer).Only p :=
  (only_call.mpr (hp _ rfl)).bind fun _ => only_record hp _

lemma only_compileAndInstall (hp : ∀ a, a.isChore v = true → p a) (compileMillis : Nat) :
    (compileAndInstall compileMillis).Only p := by
  refine (only_call.mpr (hp _ rfl)).bind fun compileStart => ?_
  refine (only_pause.mpr (hp _ rfl)).bind fun _ => (only_addTimeSince hp _ _).bind fun _ => ?_
  refine (only_call.mpr (hp _ rfl)).bind fun installStart => (only_record hp _).bind fun _ => ?_
  exact (only_addTimeSince hp _ _).bind fun _ => only_record hp _

lemma only_consultGate (hp : ∀ a, a.isChore v = true → p a) (c : Config) (m : Method) :
    (consultGate c m).Only p := by
  refine (only_access.mpr (hp _ rfl)).bind fun boots => only_ite trivial ?_
  refine (only_call.mpr (hp _ rfl)).bind fun handle => ?_
  cases handle with
  | none => trivial
  | some handle =>
      refine (only_call.mpr (hp _ rfl)).bind fun modules => ?_
      cases modules <;> trivial

/-- Taking up a task is made of chores. -/
lemma only_compile (hp : ∀ a, a.isChore v = true → p a) (c : Config) (compileMillis : Nat)
    (t : CompileTask) (s : Summary) : (compile c v compileMillis t s).Only p := by
  have hmark : markRequestHandled.Only p :=
    (only_access.mpr (hp _ rfl)).bind fun boots => only_ite (only_access.mpr (hp _ rfl)) trivial
  refine hmark.bind fun _ => (only_consultGate hp c _).bind fun forced => only_ite ?_ ?_
  · exact (only_record hp _).bind fun _ => trivial
  · exact (only_connect hp c).bind fun _ => (only_compileAndInstall hp _).bind fun _ => trivial

lemma only_lookAgain (hp : ∀ a, a.isLookout = true → p a) : lookAgain.Only p := by
  refine (only_access.mpr (hp _ rfl)).bind fun waiting => only_ite ?_ trivial
  refine (only_access.mpr (hp _ rfl)).bind fun closed => only_ite trivial ?_
  exact (only_waitForWork hp _).bind fun _ => trivial

lemma obeys_lookAgain : lookAgain.Obeys .marked fun _ w' => w' = .marked := by
  refine (obeys_visit rfl).bind fun waiting w' hw' => ?_
  subst hw'
  split
  · refine (obeys_visit rfl).bind fun closed w' hw' => ?_
    subst hw'
    cases closed with
    | true => rfl
    | false => exact (obeys_waitForWork _).bind fun _ w' hw' => hw'
  · rfl

lemma obeys_workRounds (c : Config) (v compileMillis rounds : Nat) (s : Summary) :
    (workRounds c v compileMillis rounds s).Obeys .marked fun _ w' => w'.isHeld = false := by
  induction rounds generalizing s with
  | zero => trivial
  | succ n ih =>
      refine (obeys_visit rfl).bind fun task w' hw' => ?_
      subst hw'
      cases task with
      | some t =>
          refine obeys_unlock.bind fun _ w' hw' => ?_
          subst hw'
          refine (obeys_of_only (only_compile (fun _ h => Action.role_of_isChore h) c
            compileMillis t s) rfl).bind fun s w' hw' => ?_
          refine (obeys_lock hw').bind fun _ w' hw' => ?_
          subst hw'
          exact ih s
      | none =>
          refine (obeys_visit rfl).bind fun closed w' hw' => ?_
          subst hw'
          cases closed with
          | true =>
              refine (obeys_stopping c v).bind fun x w' hw' => ?_
              subst hw'
              cases x with
              | error e => rfl
              | ok _ => exact obeys_unlock.bind fun _ w' hw' => hw' ▸ rfl
          | false =>
              refine (obeys_onEmptyQueue c v).bind fun x w' hw' => ?_
              subst hw'
              cases x with
              | error e => rfl
              | ok action =>
                  have hrest : ∀ w', w' = .marked →
                      (workRounds c v compileMillis n (s.afterIdle action)).Obeys w'
                        fun _ w' => w'.isHeld = false := fun w' hw' => hw' ▸ ih _
                  cases action with
                  | none => exact obeys_lookAgain.bind fun _ => hrest
                  | detached | repacked => exact hrest _ rfl

/-- A compiler thread keeps to the discipline and ends without the lock. -/
lemma obeys_work {w : Hold} (hw : w.isHeld = false) (rounds : Nat) (c : Config)
    (v compileMillis : Nat) :
    (work rounds c v compileMillis).Obeys w fun _ w' => w'.isHeld = false := by
  refine (obeys_lock hw).bind fun _ w' hw' => ?_
  subst hw'
  exact obeys_workRounds c v compileMillis rounds {}

end Loop

end Routine

end ExternalCompiler
