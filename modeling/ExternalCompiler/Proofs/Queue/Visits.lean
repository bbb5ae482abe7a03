/-
What visits to the queue are made of:

* `Action.isLocking`, `Action.isVisit`, `Action.isLookout`: what the lock needs, what is done in a
  visit, and what is done to wait for work; `Action.isVisit_cases` and its like go through a kind
  action by action;
* `only_lock`, `only_unlock`, `only_submit`, `only_size`, `only_length`, `only_close`,
  `only_waitForWork`: the routines of the queue do nothing else;
* `Broker.Only`: a broker that keeps to one kind of action; `queue_only`, `outside_only`: both
  brokers do.
-/
import ExternalCompiler.Queue.Operations
import ExternalCompiler.Proofs.Interleaving

namespace ExternalCompiler

namespace Action

/-- What taking the lock and giving it back needs. -/
def isLocking : Action → Bool
  | .pause .takeLock | .access .markOwner | .access .clearOwner | .access .releaseLock => true
  | _ => false

/-- What waiting for work needs, and looking whether there is any. -/
def isLookout : Action → Bool
  | .access .readSubmitted | .access .readClosed | .access .readLength
  | .pause (.awaitWork _ _) => true
  | a => a.isLocking

/-- What is done in a visit to the queue. -/
def isVisit : Action → Bool
  | .access .readFlag | .pause .takeLock | .access .markOwner | .access .clearOwner
  | .access .releaseLock | .access .readClosed | .access (.pushTask _) | .access (.countTasks _)
  | .access .readLength | .access .setClosed => true
  | _ => false

/-- What the lock needs, action by action. -/
@[elab_as_elim]
lemma isLocking_cases {motive : (a : Action) → a.isLocking = true → Prop}
    (takeLock : motive (.pause .takeLock) rfl) (markOwner : motive (.access .markOwner) rfl)
    (clearOwner : motive (.access .clearOwner) rfl)
    (releaseLock : motive (.access .releaseLock) rfl) {a : Action} (h : a.isLocking = true) :
    motive a h := by
  unfold isLocking at h
  split at h
  · exact takeLock
  · exact markOwner
  · exact clearOwner
  · exact releaseLock
  · cases h

/-- What waiting for work needs, action by action. -/
@[elab_as_elim]
lemma isLookout_cases {motive : (a : Action) → a.isLookout = true → Prop}
    (readSubmitted : motive (.access .readSubmitted) rfl)
    (readClosed : motive (.access .readClosed) rfl)
    (readLength : motive (.access .readLength) rfl)
    (awaitWork : ∀ seen millis, motive (.pause (.awaitWork seen millis)) rfl)
    (takeLock : motive (.pause .takeLock) rfl) (markOwner : motive (.access .markOwner) rfl)
    (clearOwner : motive (.access .clearOwner) rfl)
    (releaseLock : motive (.access .releaseLock) rfl) {a : Action} (h : a.isLookout = true) :
    motive a h := by
  unfold isLookout at h
  split at h
  · exact readSubmitted
  · exact readClosed
  · exact readLength
  · exact awaitWork _ _
  · cases h using isLocking_cases with
    | takeLock => exact takeLock
    | markOwner => exact markOwner
    | clearOwner => exact clearOwner
    | releaseLock => exact releaseLock

/-- What is done in a visit to the queue, action by action. -/
@[elab_as_elim]
lemma isVisit_cases {motive : (a : Action) → a.isVisit = true → Prop}
    (readFlag : motive (.access .readFlag) rfl) (takeLock : motive (.pause .takeLock) rfl)
    (markOwner : motive (.access .markOwner) rfl) (clearOwner : motive (.access .clearOwner) rfl)
    (releaseLock : motive (.access .releaseLock) rfl)
    (readClosed : motive (.access .readClosed) rfl)
    (pushTask : ∀ t, motive (.access (.pushTask t)) rfl)
    (countTasks : ∀ tier, motive (.access (.countTasks tier)) rfl)
    (readLength : motive (.access .readLength) rfl)
    (setClosed : motive (.access .setClosed) rfl) {a : Action} (h : a.isVisit = true) :
    motive a h := by
  unfold isVisit at h
  split at h
  · exact readFlag
  · exact takeLock
  · exact markOwner
  · exact clearOwner
  · exact releaseLock
  · exact readClosed
  · exact pushTask _
  · exact countTasks _
  · exact readLength
  · exact setClosed
  · cases h

lemma isVisit_of_isLocking {a : Action} (h : a.isLocking = true) : a.isVisit = true := by
  cases h using isLocking_cases <;> rfl

lemma isLookout_of_isLocking {a : Action} (h : a.isLocking = true) : a.isLookout = true := by
  cases h using isLocking_cases <;> rfl

end Action

namespace Routine

variable {p : Action → Prop}

lemma only_lock (hp : ∀ a, a.isLocking = true → p a) : lock.Only p :=
  ⟨hp _ rfl, fun _ => ⟨hp _ rfl, fun _ => trivial⟩⟩

lemma only_unlock (hp : ∀ a, a.isLocking = true → p a) : unlock.Only p :=
  ⟨hp _ rfl, fun _ => ⟨hp _ rfl, fun _ => trivial⟩⟩

lemma only_submit (hp : ∀ a, a.isVisit = true → p a) (t : CompileTask) : (submit t).Only p := by
  have hp' : ∀ a, a.isLocking = true → p a := fun a h => hp a (Action.isVisit_of_isLocking h)
  refine (only_access.mpr (hp _ rfl)).bind fun flag => only_ite trivial ?_
  refine (only_lock hp').bind fun _ => (only_access.mpr (hp _ rfl)).bind fun closed => ?_
  refine only_ite ((only_unlock hp').bind fun _ => trivial) ?_
  exact (only_access.mpr (hp _ rfl)).bind fun _ => (only_unlock hp').bind fun _ => trivial

lemma only_size (hp : ∀ a, a.isLocking = true → p a) {tier : Tier}
    (hcount : p (.access (.countTasks tier))) : (size tier).Only p := by
  refine (only_lock hp).bind fun _ => (only_access.mpr hcount).bind fun n => ?_
  exact (only_unlock hp).bind fun _ => trivial

lemma only_length (hp : ∀ a, a.isLocking = true → p a) (hlook : p (.access .readLength)) :
    length.Only p := by
  refine (only_lock hp).bind fun _ => (only_access.mpr hlook).bind fun n => ?_
  exact (only_unlock hp).bind fun _ => trivial

lemma only_close (hp : ∀ a, a.isLocking = true → p a) (hclose : p (.access .setClosed)) :
    close.Only p :=
  (only_lock hp).bind fun _ => (only_access.mpr hclose).bind fun _ => only_unlock hp

lemma only_waitForWork (hp : ∀ a, a.isLookout = true → p a) (millis : Nat) :
    (waitForWork millis).Only p := by
  refine ⟨hp _ rfl, fun seen => ⟨hp _ rfl, fun _ => ⟨hp _ rfl, fun closed => ?_⟩⟩⟩
  cases closed with
  | true => exact ⟨hp _ rfl, fun _ => trivial⟩
  | false => exact ⟨hp _ rfl, fun _ => ⟨hp _ rfl, fun _ => ⟨hp _ rfl, fun _ => trivial⟩⟩⟩

end Routine

/-! ### Brokers -/

/-- All actions of a broker are of one kind. -/
structure Broker.Only (p : Action → Prop) (b : Broker) : Prop where
  submit : ∀ t, (b.submit t).Only p
  size : ∀ tier, (b.size tier).Only p

lemma Broker.Only.mono {p q : Action → Prop} {b : Broker} (hb : b.Only p) (h : ∀ a, p a → q a) :
    b.Only q where
  submit t := (hb.submit t).mono h
  size tier := (hb.size tier).mono h

/-- The queue as a broker does what is done in visits to it. -/
lemma queue_only {p : Action → Prop} (hp : ∀ a, a.isVisit = true → p a) : Broker.queue.Only p where
  submit := Routine.only_submit hp
  size _ := Routine.only_size (fun a h => hp a (Action.isVisit_of_isLocking h)) (hp _ rfl)

/-- A broker among the surroundings is only asked. -/
lemma outside_only {p : Action → Prop} (hsubmit : ∀ t, p (.call (.submit t)))
    (hsize : ∀ tier, p (.call (.size tier))) : Broker.outside.Only p where
  submit t := Routine.only_call.mpr (hsubmit t)
  size tier := Routine.only_call.mpr (hsize tier)

end ExternalCompiler
