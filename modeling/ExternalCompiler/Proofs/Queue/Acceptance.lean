/-
What the queue accepts, and what becomes of it:

* `User`: the programs of threads that use the queue and put tasks into it by submitting them;
* `open_of_admits`, `pushed_of_admits`: a task is put only into an open queue;
* `only_submit_contents`: a submission changes nothing but by putting its task into the queue;
* `Tally`, `Shut`, `Verdict`: what is right about a queue, about a queue since it was closed, and
  about a submission;
* `queue_exact`: all of them hold in every run of users.
-/
import Mathlib.Algebra.Ring.Nat
import ExternalCompiler.Proofs.Conduct
import ExternalCompiler.Proofs.Queue.Knowledge
import ExternalCompiler.Proofs.Queue.Submission
import ExternalCompiler.Proofs.Worker.Hooks

namespace ExternalCompiler

/-! ### Users of the queue -/

namespace Action

/-- The action puts a task into the queue. -/
def isPush : Action → Bool
  | .access (.pushTask _) => true
  | _ => false

lemma isPush_of_isLocking {a : Action} (h : a.isLocking = true) : a.isPush = false := by
  cases h using isLocking_cases <;> rfl

end Action

lemma Event.pushed?_eq_none {e : Event} (h : e.action.isPush = false) : e.pushed? = none := by
  obtain ⟨t, a, x, s⟩ := e
  rcases a with a | p | c
  · cases a <;> first | rfl | cases h
  · rfl
  · rfl

/-- A task is put only into a queue that is known to be open. -/
def Known.admits : Conduct Known where
  after := Known.learns.after
  asks k a := a.isPush = true → k.isOpen = true

/-- The programs of threads that have the lock or have it not: they may do with the queue what
threads may do, but put tasks into it only by submitting them. -/
inductive User : Bool → Routine Unit → Prop
  | done {held : Bool} : User held (.done ())
  | more {held : Bool} : User held .more
  | aloof {held : Bool} {a : Action} {next : a.Answer → Routine Unit} (ha : a.role = .aloof)
      (hnext : ∀ x, User held (next x)) : User held (.act a next)
  | submit {t : CompileTask} {k : Bool → Routine Unit} (hk : ∀ x, User false (k x)) :
      User false ((Routine.submit t).bind k)
  | operate {α : Type} {held : Bool} {r : Routine α} {keeps : α → Bool} {k : α → Routine Unit}
      (hr : Operation held r keeps) (hpush : r.Only (·.isPush = false))
      (hk : ∀ x, User (keeps x) (k x)) : User held (r.bind k)

section User

variable {held : Bool} {r : Routine Unit} {k : Known}

lemma User.client (h : User held r) : Client held r := by
  induction h with
  | done => exact .done
  | more => exact .more
  | aloof ha _ ih => exact .aloof ha ih
  | submit _ ih => exact .operate (.submit _) ih
  | operate hr _ _ ih => exact .operate hr ih

/-- A submission puts its task into the queue after it found the queue open. -/
lemma heeds_submit (t : CompileTask) :
    (Routine.submit t).Heeds Known.admits k fun _ _ => True := by
  refine ⟨nofun, fun flag => ?_⟩
  cases flag with
  | true => trivial
  | false =>
      refine ⟨nofun, fun _ => ⟨nofun, fun _ => ⟨nofun, fun closed => ?_⟩⟩⟩
      cases closed with
      | true => exact ⟨nofun, fun _ => ⟨nofun, fun _ => trivial⟩⟩
      | false => exact ⟨fun _ => rfl, fun _ => ⟨nofun, fun _ => ⟨nofun, fun _ => trivial⟩⟩⟩

lemma User.heeds (h : User held r) : r.Heeds Known.admits k fun _ _ => True := by
  induction h generalizing k with
  | done => trivial
  | more => trivial
  | @aloof held a next ha _ ih =>
      refine ⟨fun hpush => ?_, fun x => ih x⟩
      rcases a with a | p | c
      · cases a <;> first | cases hpush; done | cases ha
      · cases hpush
      · cases hpush
  | submit _ ih => exact (heeds_submit _).bind fun x _ _ => ih x
  | operate _ hpush _ ih =>
      refine (Routine.heeds_of_only (hpush.mono fun a ha k hpush' => ?_)).bind fun x _ _ => ih x
      rw [ha] at hpush'
      cases hpush'

end User

section Open

variable {P Q R : System} {g h : List Event}

/-- Where every thread puts a task only into a queue that it knows to be open, the queue is open
then. -/
lemma open_of_admits {e : Event} (hguarded : Guarded (fun _ => .out) P)
    (hadmits : ∀ t, (P.threads t).Heeds Known.admits {} fun _ _ => True)
    (hrun : System.Run P g R) (hstep : System.Step R e Q) (hpush : e.action.isPush = true) :
    R.shared.queue.isClosed = false := by
  have hknown := hrun.asked hstep (hadmits e.thread) hpush
  exact (hguarded.sight hrun (sight_nothing _ _)).fits.unclosed hknown

/-- Among such threads, a closed queue accepts nothing more. -/
lemma pushed_of_admits (hguarded : Guarded (fun _ => .out) P)
    (hadmits : ∀ t, (P.threads t).Heeds Known.admits {} fun _ _ => True)
    (hreach : System.Run P g R) (hrun : System.Run R h Q)
    (hclosed : R.shared.queue.isClosed = true) : pushed h = [] := by
  refine List.filterMap_eq_nil_iff.mpr fun e he => ?_
  have hstill := hrun.closed_of_closed hclosed e he
  obtain ⟨h₁, h₂, rfl⟩ := List.append_of_mem he
  obtain ⟨S, S', hS, hstep, -⟩ := hrun.at_event
  rw [hstep.before] at hstill
  refine Event.pushed?_eq_none ?_
  rw [← Bool.not_eq_true]
  intro hpush
  rw [open_of_admits hguarded hadmits (hreach.trans hS) hstep hpush] at hstill
  cases hstill

/-- A closed queue accepts nothing more from its users. -/
lemma pushed_of_closed (hguarded : Guarded (fun _ => .out) P)
    (husers : ∀ t, User false (P.threads t)) (hreach : System.Run P g R)
    (hrun : System.Run R h Q) (hclosed : R.shared.queue.isClosed = true) : pushed h = [] :=
  pushed_of_admits hguarded (fun t => (husers t).heeds) hreach hrun hclosed

end Open

/-! ### Submissions -/

/-- All of the shared state but the lock. -/
def Shared.contents (s : Shared) : Shared :=
  { s with lock := {} }

namespace Routine

/-- Taking the lock and giving it back changes nothing else. -/
lemma keeps_contents_of_isLocking {a : Action} (h : a.isLocking = true) :
    Keeps Shared.contents a := by
  refine keeps_of_perform (fun s holder => rfl) ?_
  rintro b hb me s
  cases h using Action.isLocking_cases <;> cases hb <;> rfl

/-- A submission changes nothing but by putting a task into the queue. -/
lemma only_submit_contents (t : CompileTask) :
    (submit t).Only fun a => a.isPush = false → Keeps Shared.contents a := by
  have hlocking : ∀ a : Action, a.isLocking = true → a.isPush = false → Keeps Shared.contents a :=
    fun a ha _ => keeps_contents_of_isLocking ha
  have hread : ∀ b : Access, (∀ me s, (b.perform me s).2 = s) →
      (Action.access b).isPush = false → Keeps Shared.contents (.access b) := by
    intro b hb _
    refine keeps_of_perform (fun s holder => rfl) ?_
    rintro b' ⟨⟩ me s
    rw [hb]
  refine (only_access.mpr (hread _ fun _ _ => rfl)).bind fun flag => only_ite trivial ?_
  refine (only_lock hlocking).bind fun _ => ?_
  refine (only_access.mpr (hread _ fun _ _ => rfl)).bind fun closed => only_ite ?_ ?_
  · exact (only_unlock hlocking).bind fun _ => trivial
  · exact (only_access.mpr nofun).bind fun _ => (only_unlock hlocking).bind fun _ => trivial

/-- A visit that looks at the queue answers what it found. -/
lemma visit_leads_done {α : Type} {a : Access} {f : a.Answer → α} {es : List Event} {y : α}
    (h : (lock.bind fun _ => (access a).bind fun x => unlock.bind fun _ => done (f x)).Leads es
      (done y)) : ∃ t x s, ⟨t, .access a, x, s⟩ ∈ es ∧ y = f x := by
  obtain ⟨es₁, es', u, rfl, -, h₁⟩ := leads_bind_done.mp h
  obtain ⟨t, x, s, es₂, rfl, h₂⟩ := leads_access_done.mp h₁
  obtain ⟨es₃, es₄, u', rfl, -, h₃⟩ := leads_bind_done.mp h₂
  obtain ⟨-, hy⟩ := leads_done.mp h₃
  cases hy
  exact ⟨t, x, s, by simp, rfl⟩

end Routine

/-! ### Every state of the queue -/

/-- Every task is at one of the tiers. -/
lemma sum_countP_tier (tasks : List CompileTask) :
    (Tier.all.map fun tier => tasks.countP (·.tier == tier)).sum = tasks.length := by
  induction tasks with
  | nil => rfl
  | cons task rest ih =>
      simp only [Tier.all, List.map_cons, List.map_nil, List.sum_cons, List.sum_nil,
        List.countP_cons, List.length_cons] at ih ⊢
      cases task.tier <;> simp <;> omega

/-- A queue that was empty at first, after the history `h`. -/
structure Tally (h : List Event) (q : Queue) : Prop where
  /-- The popped tasks, and then those that wait, are the accepted ones in the same order. -/
  order : popped h ++ q.tasks = pushed h
  /-- The number of acceptances counts the accepted tasks, modulo `2 ^ 64`. -/
  count : q.submitted.toNat = (pushed h).length % 2 ^ 64
  /-- The sizes at the tiers add up to the length. -/
  sizes : (Tier.all.map q.sizeAt).sum = q.length

/-- A queue `q` that was closed, and the queue `q'` that became of it with the history `h`. -/
structure Shut (q : Queue) (h : List Event) (q' : Queue) : Prop where
  /-- It stays closed. -/
  closed : q'.isClosed = true
  /-- It accepts nothing more. -/
  refuses : pushed h = []
  /-- Its tasks are still popped, in their order. -/
  order : popped h ++ q'.tasks = q.tasks

/-- The submission of a task by the thread `t`, with the events `es`. -/
structure Verdict (t : ThreadId) (task : CompileTask) (es : List Event) (accepted : Bool) :
    Prop where
  /-- The task is accepted exactly if the flag was read as off, and the queue was found open under
  the lock. -/
  reason : accepted = true ↔
    (∃ e ∈ es, e.action = .access .readFlag ∧ e.before.compileTheWorld = false) ∧
      ∃ e ∈ es, e.action.readsClosed = true ∧ e.before.lock.holder = some t ∧
        e.before.queue.isClosed = false
  /-- Only an accepted task is put into the queue. -/
  pushed : pushed es = if accepted then [task] else []
  /-- Nothing that a refused submission does changes anything but the lock. -/
  refused : accepted = false → ∀ e ∈ es, Keeps Shared.contents e.action

section Runs

variable {P Q R : System} {g h : List Event} {t : ThreadId}

lemma role_of_readsClosed {a : Action} (h : a.readsClosed = true) : a.role = .visit := by
  rcases a with a | p | c
  · cases a <;> first | rfl | cases h
  · cases h
  · cases h

/-- Whoever visits the queue in a run holds the lock. -/
lemma Guarded.holder_of_visit {w : ThreadId → Hold} {e : Event} (hg : Guarded w P)
    (hrun : System.Run P h Q) (he : e ∈ own t h) (hrole : e.action.role = .visit) :
    e.before.lock.holder = some t := by
  obtain ⟨hmem, rfl⟩ := mem_own.mp he
  obtain ⟨h₁, h₂, rfl⟩ := List.append_of_mem hmem
  obtain ⟨S, S', hS, hstep, -⟩ := hrun.at_event
  rw [hstep.before]
  exact ((hg.run hS).fits _).holder ((hg.run hS).held_of_visit hstep hrole)

/-- The order and the number of the tasks follow from the conservation of tasks. -/
lemma tally_of_run (hqueue : P.shared.queue = {}) (hrun : System.Run P h Q) :
    Tally h Q.shared.queue where
  order := by
    rw [← hrun.conservation, hqueue]
    rfl
  count := by
    rw [hrun.submitted, hqueue, UInt64.zero_add, UInt64.toNat_ofNat']
  sizes := sum_countP_tier _

/-- What is done to a submission follows from its events. -/
lemma Guarded.verdict {w : ThreadId → Hold} {task : CompileTask} {accepted : Bool}
    (hg : Guarded w R) (hrun : System.Run R h Q)
    (hreturn : R.Returns t (Routine.submit task) h accepted) :
    Verdict t task (own t h) accepted := by
  have heff : ∀ e ∈ own t h, ∃ s, Effect e.thread e.before e.action e.answer s :=
    fun e he => hrun.effect_of_mem (mem_own.mp he).1
  have hpushed := (Routine.submit_course hreturn.2 heff).1
  refine ⟨?_, hpushed, fun hrefused e he => ?_⟩
  · rw [Routine.submit_verdict hreturn.2 heff]
    refine and_congr_right fun _ => exists_congr fun e => and_congr_right fun he =>
      and_congr_right fun hreads => ?_
    rw [and_iff_right (hg.holder_of_visit hrun he (role_of_readsClosed hreads))]
  · refine ((Routine.only_submit_contents task).leads hreturn.2).2 e he ?_
    rw [hrefused] at hpushed
    have hnone := List.filterMap_eq_nil_iff.mp hpushed e he
    obtain ⟨u, a, x, s⟩ := e
    rcases a with a | p | c
    · cases a <;> first | rfl | cases hnone
    · rfl
    · rfl

/-- **The queue loses, duplicates and reorders nothing.** Threads share a queue that is empty at
first, and use it in any order. In every state that they reach, the popped tasks and then those that
wait are the accepted tasks in the order of their acceptance, and they are counted; whoever pops
gets the oldest task. From then on, a closed queue stays closed and accepts nothing; a submission is
accepted exactly if it found the flag off and the queue open; and a size or the length is what was
found under the lock. -/
theorem queue_exact (hlock : P.shared.lock = {}) (hqueue : P.shared.queue = {})
    (hnobody : P.threads 0 = .done ()) (husers : ∀ t, User false (P.threads t))
    (hreach : System.Run P g R) :
    Tally g R.shared.queue ∧
      (∀ t next, R.threads t = .act (.access .popTask) next →
        ∃ Q, System.Step R ⟨t, .access .popTask, R.shared.queue.tasks.head?, R.shared⟩ Q ∧
          Q.shared.queue.tasks = R.shared.queue.tasks.tail) ∧
      ∀ h Q, System.Run R h Q →
        (R.shared.queue.isClosed = true → Shut R.shared.queue h Q.shared.queue) ∧
        ∀ t,
          (∀ task accepted, R.Returns t (Routine.submit task) h accepted →
            Verdict t task (own t h) accepted) ∧
          (∀ tier n, R.Returns t (Routine.size tier) h n →
            ∃ e ∈ own t h, e.before.lock.holder = some t ∧ n = e.before.queue.sizeAt tier) ∧
          ∀ n, R.Returns t Routine.length h n →
            ∃ e ∈ own t h, e.before.lock.holder = some t ∧ n = e.before.queue.length := by
  have hstart := guarded_of_clients hlock hnobody fun t => (husers t).client
  have hguarded := hstart.run hreach
  refine ⟨tally_of_run hqueue hreach, fun t next hact => ?_, fun h Q hrun => ⟨fun hclosed => ?_,
    fun t => ⟨fun task accepted => hguarded.verdict hrun, fun tier n hreturn => ?_,
      fun n hreturn => ?_⟩⟩⟩
  · have hpop : (Access.popTask.perform t R.shared).1 = R.shared.queue.tasks.head? ∧
        (Access.popTask.perform t R.shared).2.queue.tasks = R.shared.queue.tasks.tail := by
      simp only [Access.perform, Queue.pop]
      cases htasks : R.shared.queue.tasks with
      | nil => exact ⟨rfl, htasks⟩
      | cons task rest => exact ⟨rfl, rfl⟩
    exact ⟨_, .act hact (effect_access.mpr ⟨hpop.1.symm, rfl⟩), hpop.2⟩
  · have hnothing := pushed_of_closed hstart husers hreach hrun hclosed
    refine ⟨hrun.still_closed hclosed, hnothing, ?_⟩
    rw [← hrun.conservation, hnothing, List.append_nil]
  · obtain ⟨u, m, s, hlook, rfl⟩ := Routine.visit_leads_done (f := id) hreturn.2
    obtain ⟨s', heff⟩ := hrun.effect_of_mem (mem_own.mp hlook).1
    exact ⟨_, hlook, hguarded.holder_of_visit hrun hlook rfl, (effect_access.mp heff).1⟩
  · obtain ⟨u, m, s, hlook, rfl⟩ := Routine.visit_leads_done (f := id) hreturn.2
    obtain ⟨s', heff⟩ := hrun.effect_of_mem (mem_own.mp hlook).1
    exact ⟨_, hlook, hguarded.holder_of_visit hrun hlook rfl, (effect_access.mp heff).1⟩

end Runs

/-- A task for the method `toString`. -/
def plainTask : CompileTask where
  method := { holder := "Object", name := "toString", module := ⟨"java.base"⟩ }
  tier := .simple
  hotCount := 1
  reason := .tiered

/-- A thread that submits a task, closes the queue, submits the task again and pops. -/
def closingUser : System where
  shared := {}
  threads
    | 1 => (Routine.submit plainTask).bind fun _ => Routine.close.bind fun _ =>
        (Routine.submit plainTask).bind fun _ => Routine.lock.bind fun _ =>
          (Routine.access .popTask).bind fun _ => Routine.unlock.bind fun _ => .done ()
    | _ => .done ()

/-- The thread submits its task and closes the queue. -/
def closingStart : List Event × System :=
  closingUser.play Call.silence (List.replicate 12 1)

/-- The thread submits its task again and pops. -/
def closingRest : List Event × System :=
  closingStart.2.play Call.silence (List.replicate 11 1)

/-- The closed queue refuses the task when it is submitted again, and the accepted one is popped. -/
theorem queue_exact_closing :
    Tally closingStart.1 closingStart.2.shared.queue ∧
      Shut closingStart.2.shared.queue closingRest.1 closingRest.2.shared.queue ∧
      popped closingRest.1 = [plainTask] := by
  have hclose : Routine.close.Only (·.isPush = false) :=
    ⟨rfl, fun _ => ⟨rfl, fun _ => ⟨rfl, fun _ => ⟨rfl, fun _ => ⟨rfl, fun _ => trivial⟩⟩⟩⟩⟩
  have hlock : Routine.lock.Only (·.isPush = false) := ⟨rfl, fun _ => ⟨rfl, fun _ => trivial⟩⟩
  have hunlock : Routine.unlock.Only (·.isPush = false) := ⟨rfl, fun _ => ⟨rfl, fun _ => trivial⟩⟩
  have husers : ∀ t, User false (closingUser.threads t) := by
    intro t
    simp only [closingUser]
    split
    · refine .submit fun _ => .operate .close hclose fun _ => .submit fun _ => ?_
      refine .operate .lock hlock fun _ => .operate (.visit rfl) ⟨rfl, fun _ => trivial⟩ fun _ => ?_
      exact .operate .unlock hunlock fun _ => .done
    · exact .done
  have hreach : System.Run closingUser closingStart.1 closingStart.2 := System.run_play _ _ _
  have hrun : System.Run closingStart.2 closingRest.1 closingRest.2 := System.run_play _ _ _
  obtain ⟨htally, -, hlater⟩ := queue_exact rfl rfl rfl husers hreach
  have hshut := (hlater _ _ hrun).1 (by decide +kernel)
  refine ⟨htally, hshut, ?_⟩
  have hempty : closingRest.2.shared.queue.tasks = [] := by decide +kernel
  have hwaits : closingStart.2.shared.queue.tasks = [plainTask] := by decide +kernel
  rw [← hwaits, ← hshut.order, hempty, List.append_nil]

end ExternalCompiler
