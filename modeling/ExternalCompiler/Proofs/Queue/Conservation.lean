/-
The queue loses and invents no task:

* `Event.pushed?`, `Event.popped?`: the task that an event puts into the queue or takes out of it;
* `arrivals`, `popped`: all tasks that came into the queue, with the threads that brought them, and
  all that left it;
* `System.Run.conservation`: what left the queue, and then what waits in it, is what came into it,
  in the same order; so the task at one place of `arrivals` left as the task at the same place of
  `popped`, if it left at all;
* `System.Run.submitted`: the number of acceptances counts what came;
* `System.Run.pairwise_closed`: a queue that is closed stays closed.
-/
import ExternalCompiler.Proofs.Interleaving

namespace ExternalCompiler

/-! ### Arrivals and departures -/

namespace Event

/-- The task that the event puts into the queue. -/
def pushed? : Event → Option CompileTask
  | ⟨_, .access (.pushTask t), _, _⟩ => some t
  | _ => none

/-- The task that the event takes out of the queue. -/
def popped? : Event → Option CompileTask
  | ⟨_, .access .popTask, t, _⟩ => t
  | _ => none

end Event

/-- The tasks that were put into the queue. -/
def pushed (h : List Event) : List CompileTask :=
  h.filterMap Event.pushed?

/-- The tasks that were taken out of the queue. -/
def popped (h : List Event) : List CompileTask :=
  h.filterMap Event.popped?

@[simp] lemma pushed_nil : pushed [] = [] := rfl

@[simp] lemma popped_nil : popped [] = [] := rfl

lemma pushed_cons (e : Event) (h : List Event) :
    pushed (e :: h) = e.pushed?.toList ++ pushed h := by
  cases he : e.pushed? <;> simp [pushed, he]

lemma popped_cons (e : Event) (h : List Event) :
    popped (e :: h) = e.popped?.toList ++ popped h := by
  cases he : e.popped? <;> simp [popped, he]

@[simp] lemma pushed_append (h h' : List Event) : pushed (h ++ h') = pushed h ++ pushed h' :=
  List.filterMap_append

/-- All tasks that came into the queue: those that waited at first, which no thread brought, and
then those that were put into it, each with its thread. -/
def arrivals (P : System) (h : List Event) : List (Option ThreadId × CompileTask) :=
  P.shared.queue.tasks.map (none, ·) ++
    h.filterMap fun e => e.pushed?.map (some e.thread, ·)

lemma map_snd_arrivals (P : System) (h : List Event) :
    (arrivals P h).map (·.2) = P.shared.queue.tasks ++ pushed h := by
  simp [arrivals, pushed, List.map_filterMap, Function.comp_def]

namespace Action

/-- The action takes a task out of the queue, if there is one. -/
def isPop : Action → Bool
  | .access .popTask => true
  | _ => false

/-- The action puts a task into the queue or takes one out of it. -/
def movesTasks : Action → Bool
  | .access (.pushTask _) | .access .popTask => true
  | _ => false

end Action

/-- What moves no task puts none into the queue and takes none out of it. -/
lemma Event.unmoved {e : Event} (h : e.action.movesTasks = false) :
    e.pushed? = none ∧ e.popped? = none := by
  obtain ⟨t, a, x, s⟩ := e
  rcases a with a | p | c
  · cases a <;> first | exact ⟨rfl, rfl⟩ | cases h
  · exact ⟨rfl, rfl⟩
  · exact ⟨rfl, rfl⟩

lemma keeps_tasks {a : Action} (h : a.movesTasks = false) : Keeps (·.queue.tasks) a := by
  refine keeps_of_perform (fun s holder => rfl) ?_
  rintro b rfl me s
  cases b with
  | pushTask | popTask => cases h
  | claimStartup | openWindow => simp only [Access.perform]; split <;> rfl
  | _ => rfl

/-- What an action takes out of the queue and leaves in it is what was in it and what the action
puts into it. -/
lemma effect_conservation {t : ThreadId} {a : Action} {x : a.Answer} {s s' : Shared}
    (h : Effect t s a x s') :
    s.queue.tasks ++ (Event.pushed? ⟨t, a, x, s⟩).toList =
      (Event.popped? ⟨t, a, x, s⟩).toList ++ s'.queue.tasks := by
  by_cases hmoves : a.movesTasks = true
  · rcases a with a | p | c
    · obtain ⟨rfl, rfl⟩ := effect_access.mp h
      cases a with
      | pushTask t => rfl
      | popTask =>
          simp only [Event.pushed?, Event.popped?, Access.perform, Queue.pop]
          cases hq : s.queue.tasks with
          | nil => simp [hq]
          | cons t rest => simp
      | _ => cases hmoves
    · cases hmoves
    · cases hmoves
  · rw [Bool.not_eq_true] at hmoves
    have hkept : s'.queue.tasks = s.queue.tasks := keeps_tasks hmoves _ _ _ _ h
    obtain ⟨hpushed, hpopped⟩ := Event.unmoved (e := ⟨t, a, x, s⟩) hmoves
    rw [hkept, hpushed, hpopped]
    simp

/-- The number of acceptances grows by one with each task that is put into the queue. -/
lemma effect_submitted {t : ThreadId} {a : Action} {x : a.Answer} {s s' : Shared}
    (h : Effect t s a x s') :
    s'.queue.submitted =
      s.queue.submitted + UInt64.ofNat (Event.pushed? ⟨t, a, x, s⟩).toList.length := by
  rcases a with a | p | c
  · obtain ⟨-, rfl⟩ := effect_access.mp h
    cases a with
    | pushTask => rfl
    | popTask =>
        simp only [Access.perform, Queue.pop]
        split <;> exact (UInt64.add_zero _).symm
    | claimStartup | openWindow =>
        simp only [Access.perform]
        split <;> exact (UInt64.add_zero _).symm
    | _ => exact (UInt64.add_zero _).symm
  · cases p with
    | takeLock => exact h.2 ▸ (UInt64.add_zero _).symm
    | awaitWork seen millis => exact h.2.2 ▸ (UInt64.add_zero _).symm
    | sleep millis => exact h ▸ (UInt64.add_zero _).symm
  · exact h ▸ (UInt64.add_zero _).symm

/-- Nothing opens a closed queue. -/
lemma effect_closed {t : ThreadId} {a : Action} {x : a.Answer} {s s' : Shared}
    (h : Effect t s a x s') (hclosed : s.queue.isClosed = true) : s'.queue.isClosed = true := by
  rcases a with a | p | c
  · obtain ⟨-, rfl⟩ := effect_access.mp h
    cases a with
    | claimStartup | openWindow =>
        simp only [Access.perform]
        split <;> exact hclosed
    | popTask =>
        simp only [Access.perform, Queue.pop]
        split <;> exact hclosed
    | setClosed => rfl
    | _ => exact hclosed
  · cases p with
    | takeLock => exact h.2 ▸ hclosed
    | awaitWork seen millis => exact h.2.2 ▸ hclosed
    | sleep millis => exact h ▸ hclosed
  · exact h ▸ hclosed

namespace System.Run

variable {P Q : System} {h : List Event}

/-- **What came into the queue is what left it and what waits in it, in the same order.** -/
theorem conservation (hr : Run P h Q) :
    P.shared.queue.tasks ++ pushed h = popped h ++ Q.shared.queue.tasks := by
  induction hr with
  | refl P => simp
  | @step P Q R e h hstep _ ih =>
      have he : P.shared.queue.tasks ++ e.pushed?.toList =
          e.popped?.toList ++ Q.shared.queue.tasks := by
        have heff := effect_conservation hstep.effect
        cases hstep
        exact heff
      rw [pushed_cons, popped_cons, ← List.append_assoc, he, List.append_assoc, ih,
        List.append_assoc]
  | look hlook _ ih =>
      obtain ⟨holder, hshared⟩ := hlook.shared
      rw [hshared] at ih
      exact ih

/-- The number of acceptances counts what was put into the queue, modulo `2 ^ 64`. -/
theorem submitted (hr : Run P h Q) :
    Q.shared.queue.submitted = P.shared.queue.submitted + UInt64.ofNat (pushed h).length := by
  induction hr with
  | refl P => simp
  | @step P Q R e h hstep _ ih =>
      have he : Q.shared.queue.submitted =
          P.shared.queue.submitted + UInt64.ofNat e.pushed?.toList.length := by
        have heff := effect_submitted hstep.effect
        cases hstep
        exact heff
      rw [ih, he, pushed_cons, List.length_append, UInt64.ofNat_add, UInt64.add_assoc]
  | look hlook _ ih =>
      obtain ⟨holder, hshared⟩ := hlook.shared
      rw [hshared] at ih
      exact ih

/-- A closed queue stays closed. -/
lemma still_closed (hr : Run P h Q) (hclosed : P.shared.queue.isClosed = true) :
    Q.shared.queue.isClosed = true := by
  induction hr with
  | refl P => exact hclosed
  | step hstep _ ih => exact ih (effect_closed hstep.effect hclosed)
  | look hlook _ ih =>
      obtain ⟨holder, hshared⟩ := hlook.shared
      exact ih (by rw [hshared]; exact hclosed)

/-- A closed queue is closed at all later events. -/
lemma closed_of_closed (hr : Run P h Q) (hclosed : P.shared.queue.isClosed = true) :
    ∀ e ∈ h, e.before.queue.isClosed = true := by
  intro e he
  obtain ⟨h₁, h₂, rfl⟩ := List.append_of_mem he
  obtain ⟨R, R', hR, hstep, -⟩ := hr.at_event
  rw [hstep.before]
  exact hR.still_closed hclosed

/-- A queue that is closed at an event is closed at all later events. -/
lemma pairwise_closed (hr : Run P h Q) :
    h.Pairwise fun e e' => e.before.queue.isClosed = true → e'.before.queue.isClosed = true := by
  induction hr with
  | refl P => exact .nil
  | step hstep hrun ih =>
      refine .cons (fun e' he' hclosed => ?_) ih
      rw [hstep.before] at hclosed
      exact hrun.closed_of_closed (effect_closed hstep.effect hclosed) e' he'
  | look _ _ ih => exact ih

end System.Run

end ExternalCompiler
