/-
A pool of compiler threads over one queue, with the simulated runtime:

* `ledger`: what a worker accounts for after its events; `added_ledger`, `tasks_ledger`: its ledger
  shows what it added to the counters and the tasks that it took;
* `Pool`: workers, and others that share their queue;
* `Ledger.spare`, `measure_step`: after the queue is closed, every round uses up a task that waits
  or the last look at the queue; `Pool.measure_event`, `Pool.measure`: whatever the others do, so
  `WindsUp`;
* `work_leads_stop`, `Pool.drained`: a worker stops only at a queue that is closed and empty;
* `Settled`, `Counted`: what is right when all workers have stopped; `Pool.settled`,
  `Pool.counted`: it follows from their balanced ledgers, so `pool_accounts`.
-/
import ExternalCompiler.Proofs.Queue.Parties
import ExternalCompiler.Proofs.Worker.Jobs
import ExternalCompiler.Proofs.Worker.Waiting

namespace ExternalCompiler

/-! ### Ledgers and events -/

namespace Action

/-- The action belongs to the jobs of a worker: it takes a task, or counts what became of it. -/
def isOfJob : Action → Bool
  | .access .popTask => true
  | .access (.addCounter k _) => k.isOfJob
  | _ => false

lemma not_isOfJob_of_isVisit {a : Action} (h : a.isVisit = true) : a.isOfJob = false := by
  cases h using isVisit_cases <;> rfl

end Action

/-- What a worker accounts for after its events. -/
def ledger (es : List Event) : Ledger :=
  (jobAccount 0).run {} es

section Ledger

variable {n : Nat} {k : Counter} {l : Ledger} {es : List Event}

/-- What an event adds to a counter of the jobs is in the ledger. -/
lemma added_after (hk : k.isOfJob = true) (e : Event) :
    ((jobAccount n).after l e.action e.answer).added k = l.added k + e.added k := by
  obtain ⟨t, a, x, s⟩ := e
  rcases a with a | p | c
  · cases a with
    | popTask => cases x <;> rfl
    | addCounter k' m =>
        change (l.add k' m).added k = _
        rw [Ledger.add, Event.added]
        by_cases hkk : k' = k
        · subst hkk
          simp [hk]
        · by_cases hk' : k'.isOfJob = true
          · simp [hk', hkk, Function.update_of_ne (Ne.symm hkk)]
          · simp [hk', hkk]
    | _ => rfl
  · rfl
  · rfl

/-- What is noted about a job leaves its task alone. -/
lemma map_task_modifyHead (f : Job → Job) (hf : ∀ j, (f j).task = j.task) (jobs : List Job) :
    (jobs.modifyHead f).map (·.task) = jobs.map (·.task) := by
  cases jobs <;> simp [hf]

/-- A task that a worker takes is its newest job. -/
lemma tasks_after (e : Event) :
    ((jobAccount n).after l e.action e.answer).jobs.map (·.task) =
      e.popped?.toList ++ l.jobs.map (·.task) := by
  obtain ⟨t, a, x, s⟩ := e
  rcases a with a | p | c
  · cases a with
    | popTask => cases x <;> rfl
    | readBootstrapping =>
        exact map_task_modifyHead (fun j => { j with window := x }) (fun _ => rfl) l.jobs
    | addCounter k' m =>
        change (l.add k' m).jobs.map (·.task) = l.jobs.map (·.task)
        rw [Ledger.add]
        split_ifs
        · exact map_task_modifyHead (fun j => { j with compiled := true }) (fun _ => rfl) l.jobs
        · rfl
        · rfl
    | _ => rfl
  · rfl
  · rfl

lemma tasks_run :
    (((jobAccount n).run l es).jobs.map (·.task)).reverse =
      (l.jobs.map (·.task)).reverse ++ popped es := by
  induction es generalizing l with
  | nil => simp [Conduct.run]
  | cons e es ih =>
      have hstep := congrArg List.reverse (tasks_after (n := n) (l := l) e)
      have hone : e.popped?.toList.reverse = e.popped?.toList := by
        cases e.popped? <;> rfl
      rw [List.reverse_append, hone] at hstep
      rw [popped_cons, ← List.append_assoc, ← hstep]
      exact ih

/-- Every round begins with a look for a task. -/
lemma rounds_after (e : Event) :
    ((jobAccount n).after l e.action e.answer).rounds =
      l.rounds + if e.action.isPop then 1 else 0 := by
  obtain ⟨t, a, x, s⟩ := e
  rcases a with a | p | c
  · cases a with
    | popTask => cases x <;> rfl
    | addCounter k' m =>
        change (l.add k' m).rounds = l.rounds
        rw [Ledger.add]
        split_ifs <;> rfl
    | _ => rfl
  · rfl
  · rfl

/-- A worker begins as many rounds as it looks for tasks. -/
lemma rounds_run : ((jobAccount n).run l es).rounds = l.rounds + es.countP (·.action.isPop) := by
  rw [← total_ite]
  exact Conduct.total_run (g := Ledger.rounds) (fun _ => rounds_after) l es

/-- The ledger shows what its worker added to the counters of the jobs. -/
lemma added_ledger (hk : k.isOfJob = true) : (ledger es).added k = total (Event.added k) es :=
  (Conduct.total_run (g := fun l : Ledger => l.added k) (fun _ => added_after hk) {} es).trans
    (Nat.zero_add _)

/-- The jobs of a worker are the tasks that it took, in the same order. -/
lemma tasks_ledger : ((ledger es).jobs.map (·.task)).reverse = popped es :=
  tasks_run

/-- The simulated runtime answers as expected. -/
lemma expected_of_simulated (hes : ∀ e ∈ es, e.action.Simulated e.answer) :
    (jobAccount n).Expected l es := by
  induction es generalizing l with
  | nil => trivial
  | cons e es ih =>
      obtain ⟨he, hes⟩ := List.forall_mem_cons.mp hes
      exact ⟨he, ih hes⟩

end Ledger

/-! ### Pools -/

/-- Compiler threads `crew` over a queue that is empty at first, and others that share the queue
with them: these take no tasks and do not count jobs. -/
structure Pool (rounds : Nat) (c : Config) (crew : Finset ThreadId) (worker millis : ThreadId → Nat)
    (P : System) : Prop where
  lock : P.shared.lock = {}
  queue : P.shared.queue = {}
  nobody : P.threads 0 = .done ()
  working : ∀ t ∈ crew,
    P.threads t = (Routine.work rounds c (worker t) (millis t)).bind fun _ => .done ()
  others : ∀ t ∉ crew, Party false (P.threads t)
  aside : ∀ t ∉ crew, (P.threads t).Only (·.isOfJob = false)

section Pool

variable {rounds : Nat} {c : Config} {crew : Finset ThreadId} {worker millis : ThreadId → Nat}
  {P Q R : System} {g h : List Event} {t : ThreadId}

/-! ### Workers and others -/

/-- A worker is a party like any other. -/
lemma Pool.parties (hpool : Pool rounds c crew worker millis P) (t : ThreadId) :
    Party false (P.threads t) := by
  by_cases ht : t ∈ crew
  · rw [hpool.working t ht]
    have hpush := Routine.only_work (w := worker t) (fun _ => Action.isPush_of_isOfWorker) rounds c
      (millis t)
    exact .operate (.work _ _ _ _) hpush fun _ => .done
  · exact hpool.others t ht

lemma Pool.guarded (hpool : Pool rounds c crew worker millis P) : Guarded (fun _ => .out) P :=
  guarded_of_parties hpool.lock hpool.nobody hpool.parties

/-- The others take no tasks and do not count jobs, all along a run. -/
lemma Pool.not_isOfJob (hpool : Pool rounds c crew worker millis P) (hrun : System.Run P h Q) :
    ∀ e ∈ h, e.thread ∉ crew → e.action.isOfJob = false := by
  intro e he ht
  have honly := (hpool.aside _ ht).leads (hrun.leads e.thread)
  exact honly.2 e (mem_own.mpr ⟨he, rfl⟩)

/-- What a worker has returned is a summary of its ledger. -/
lemma balanced_of_returns {w compileMillis : Nat} {x : Except ServiceError Summary}
    (hsim : ∀ e ∈ own t h, e.action.Simulated e.answer)
    (hx : P.Returns t (Routine.work rounds c w compileMillis) h x) :
    ∃ s, x = .ok s ∧ (ledger (own t h)).Balanced c s :=
  (Routine.meets_work rounds c w compileMillis).leads hx.2 (expected_of_simulated hsim)

/-! ### After the queue is closed -/

/-- A worker that has not found the queue empty and closed may look for a task once more. -/
def Ledger.spare (l : Ledger) : Nat :=
  if l.missed then 0 else 1

/-- What moves no task in a closed queue leaves the spare look. -/
lemma spare_after {n : Nat} {l : Ledger} {a : Action} {x : a.Answer} {s s' : Shared}
    (heff : Effect t s a x s') (hclosed : s.queue.isClosed = true) (hpop : a.isPop = false) :
    ((jobAccount n).after l a x).spare = l.spare := by
  rcases a with a | p | c
  · obtain ⟨rfl, rfl⟩ := effect_access.mp heff
    cases a with
    | popTask => cases hpop
    | readClosed =>
        change (l.check s.queue.isClosed).spare = l.spare
        simp [Ledger.check, Ledger.spare, hclosed]
    | addCounter k m =>
        change (l.add k m).spare = l.spare
        rw [Ledger.add]
        split_ifs <;> rfl
    | _ => rfl
  · rfl
  · rfl

/-- At a closed queue, a look for a task uses up a task that waits or the spare look. -/
lemma measure_step {n : Nat} {l : Ledger} {a : Action} {x : a.Answer} {s s' : Shared}
    (hasks : (jobAccount n).asks l a) (heff : Effect t s a x s')
    (hclosed : s.queue.isClosed = true) (hpush : a.isPush = false) :
    (if a.isPop then 1 else 0) + s'.queue.length + ((jobAccount n).after l a x).spare ≤
      s.queue.length + l.spare := by
  by_cases hpop : a.isPop = true
  · obtain rfl : a = .access .popTask := by
      rcases a with a | p | c
      · cases a <;> first | rfl | cases hpop
      · cases hpop
      · cases hpop
    have hspare : l.spare = 1 := by
      have hmissed : l.missed = false := hasks
      simp [Ledger.spare, hmissed]
    obtain ⟨rfl, rfl⟩ := effect_access.mp heff
    simp only [Access.perform, Queue.pop, Queue.length, hspare, Action.isPop, if_true]
    cases htasks : s.queue.tasks with
    | nil =>
        have hmiss : l.miss.spare = 0 := rfl
        change 1 + s.queue.tasks.length + l.miss.spare ≤ _
        simp [hmiss, htasks]
    | cons task rest =>
        have htake : (l.take task).spare ≤ 1 := by
          rw [Ledger.spare]
          split <;> omega
        change 1 + rest.length + (l.take task).spare ≤ _
        rw [List.length_cons]
        omega
  · rw [Bool.not_eq_true] at hpop
    have hmoves : a.movesTasks = false := by
      rcases a with a | p | c
      · cases a <;> first | rfl | cases hpop; done | cases hpush
      · rfl
      · rfl
    have htasks : s'.queue.tasks = s.queue.tasks := keeps_tasks hmoves _ _ _ _ heff
    rw [spare_after heff hclosed hpop, hpop, Queue.length, htasks, Queue.length]
    simp

/-- Only a push makes a queue longer. -/
lemma length_le_of_not_push {u : ThreadId} {a : Action} {x : a.Answer} {s s' : Shared}
    (heff : Effect u s a x s') (hpush : a.isPush = false) :
    s'.queue.length ≤ s.queue.length := by
  have hnone : Event.pushed? ⟨u, a, x, s⟩ = none := Event.pushed?_eq_none hpush
  have hkept := congrArg List.length (effect_conservation heff)
  rw [hnone, List.length_append, List.length_append] at hkept
  simp only [Option.toList_none, List.length_nil] at hkept
  rw [Queue.length, Queue.length]
  omega

/-- A worker keeps its ledger from the start on. -/
lemma Pool.meets (hpool : Pool rounds c crew worker millis P) (ht : t ∈ crew) :
    (P.threads t).Meets (jobAccount rounds) {} fun _ _ => True := by
  rw [hpool.working t ht]
  exact (Routine.meets_work rounds c (worker t) (millis t)).bind fun _ _ _ => trivial

/-- Nobody accepts a task once the queue is closed. -/
lemma Pool.not_isPush (hpool : Pool rounds c crew worker millis P) (hrun : System.Run P h Q)
    {e : Event} (hstep : System.Step Q e R) (hclosed : Q.shared.queue.isClosed = true) :
    e.action.isPush = false := by
  have hadmits := fun u => (hpool.parties u).heeds (k := {})
  rw [← Bool.not_eq_true]
  intro hpush
  rw [open_of_admits hpool.guarded hadmits hrun hstep hpush] at hclosed
  cases hclosed

/-- No event at a closed queue adds to what a worker still looks for. -/
lemma Pool.measure_event (hpool : Pool rounds c crew worker millis P) (ht : t ∈ crew)
    (hrun : System.Run P h Q) {e : Event} (hstep : System.Step Q e R)
    (hsim : ∀ e ∈ own t h, e.action.Simulated e.answer)
    (hclosed : Q.shared.queue.isClosed = true) :
    (own t [e]).countP (·.action.isPop) + R.shared.queue.length +
        (ledger (own t (h ++ [e]))).spare ≤
      Q.shared.queue.length + (ledger (own t h)).spare := by
  have hpush := hpool.not_isPush hrun hstep hclosed
  by_cases he : e.thread = t
  · have hone : own t [e] = [e] := own_cons_self he []
    have hleads := (hrun.trans (.step hstep (.refl R))).leads t
    rw [own_append, hone] at hleads
    have hasks := (hpool.meets ht).asked hleads (expected_of_simulated hsim)
    have hafter : ledger (own t (h ++ [e])) =
        (jobAccount 0).after (ledger (own t h)) e.action e.answer := by
      rw [own_append, hone, ledger, Conduct.run_append]
      rfl
    rw [hone, List.countP_singleton, hafter]
    exact measure_step (n := 0) hasks hstep.effect hclosed hpush
  · have hnone : own t [e] = [] := own_cons_other he []
    have hfewer := length_le_of_not_push hstep.effect hpush
    rw [own_append, hnone, List.append_nil, List.countP_nil]
    omega

/-- The measure of a closed queue and a worker: what the worker still looks for. -/
lemma Pool.measure (hpool : Pool rounds c crew worker millis P) (ht : t ∈ crew)
    (hreach : System.Run P g R) (hrun : System.Run R h Q)
    (hsim : ∀ e ∈ own t (g ++ h), e.action.Simulated e.answer)
    (hclosed : R.shared.queue.isClosed = true) :
    (own t h).countP (·.action.isPop) + Q.shared.queue.length + (ledger (own t (g ++ h))).spare ≤
      R.shared.queue.length + (ledger (own t g)).spare := by
  refine hrun.invariant (I := fun h Q => (∀ e ∈ own t (g ++ h), e.action.Simulated e.answer) →
    (own t h).countP (·.action.isPop) + Q.shared.queue.length + (ledger (own t (g ++ h))).spare ≤
      R.shared.queue.length + (ledger (own t g)).spare) ?_ ?_ ?_ hsim
  · intro _
    simp
  · intro h' S e S' hS ih hstep hsim'
    rw [← List.append_assoc, own_append, List.forall_mem_append] at hsim'
    have hbefore := ih hsim'.1
    have hevent := hpool.measure_event ht (hreach.trans hS) hstep hsim'.1 (hS.still_closed hclosed)
    rw [own_append, List.countP_append, ← List.append_assoc]
    omega
  · intro h' S S' _ ih hlook hsim'
    obtain ⟨holder, hshared⟩ := hlook.shared
    rw [hshared]
    exact ih hsim'

/-- The worker of the thread `t`, which had begun `begun` rounds when the queue was closed with
`left` tasks in it, winds up with the events `h`. -/
structure WindsUp (t : ThreadId) (rounds begun left : Nat) (h : List Event) (Q : System) :
    Prop where
  /-- After the round in which it was, it begins at most one round for each task and another one. -/
  few : (own t h).countP (·.action.isPop) ≤ left + 1
  /-- A loop that is unrolled that far comes to its end. -/
  unrolled : begun + left + 1 < rounds → Q.threads t ≠ .more
  /-- It can go on until then, unless another thread has the lock. -/
  acts : ∀ a next, Q.threads t = .act a next →
    (∃ e Q', System.Run Q [e] Q' ∧ e.thread = t ∧ e.action.Simulated e.answer) ∨
      ∃ u, u ≠ t ∧ Q.shared.lock.holder = some u

lemma Pool.windsUp (hpool : Pool rounds c crew worker millis P) (ht : t ∈ crew)
    (hreach : System.Run P g R) (hrun : System.Run R h Q)
    (hsim : ∀ e ∈ own t (g ++ h), e.action.Simulated e.answer)
    (hclosed : R.shared.queue.isClosed = true) :
    WindsUp t rounds ((own t g).countP (·.action.isPop)) R.shared.queue.length h Q := by
  have hfew : (own t h).countP (·.action.isPop) ≤ R.shared.queue.length + 1 := by
    have hmeasure := hpool.measure ht hreach hrun hsim hclosed
    have hspare : (ledger (own t g)).spare ≤ 1 := by
      rw [Ledger.spare]
      split <;> omega
    omega
  refine ⟨hfew, fun hrounds hmore => ?_, fun a next hact => ?_⟩
  · have hhalts := (hpool.meets ht).leads ((hreach.trans hrun).leads t)
      (expected_of_simulated hsim)
    rw [hmore] at hhalts
    have hbegun : rounds ≤ ((jobAccount rounds).run {} (own t (g ++ h))).rounds := hhalts
    rw [rounds_run, own_append, List.countP_append] at hbegun
    simp only [Nat.zero_add] at hbegun
    omega
  · exact (hpool.guarded.run (hreach.trans hrun)).acts hact

/-! ### Where a worker stops -/

/-- The events show a look at the queue that found no task and then that it is closed. -/
def ShowsEnd (es : List Event) : Prop :=
  ∃ es₁ u s u' s' es₂,
    es = es₁ ++ ⟨u, .access .popTask, none, s⟩ :: ⟨u', .access .readClosed, true, s'⟩ :: es₂

lemma ShowsEnd.append {es : List Event} (hes : ShowsEnd es) (before : List Event) :
    ShowsEnd (before ++ es) := by
  obtain ⟨es₁, u, s, u', s', es₂, rfl⟩ := hes
  exact ⟨before ++ es₁, u, s, u', s', es₂, by simp⟩

lemma workRounds_leads_stop {w compileMillis : Nat} {s₀ s : Summary} {es : List Event}
    (hes : (Routine.workRounds c w compileMillis rounds s₀).Leads es (.done (.ok s))) :
    ShowsEnd es := by
  induction rounds generalizing s₀ es with
  | zero => exact absurd hes Routine.not_leads_more_done
  | succ n ih =>
      obtain ⟨u, task, s₁, es', rfl, hpop⟩ := Routine.leads_access_done.mp hes
      cases task with
      | some task =>
          obtain ⟨es₁, es₂, _, rfl, -, hunlock⟩ := Routine.leads_bind_done.mp hpop
          obtain ⟨es₃, es₄, s₂, rfl, -, hcompile⟩ := Routine.leads_bind_done.mp hunlock
          obtain ⟨es₅, es₆, _, rfl, -, hlock⟩ := Routine.leads_bind_done.mp hcompile
          exact ((((ih hlock).append es₅).append es₃).append es₁).append [_]
      | none =>
          obtain ⟨u', closed, s₂, es₁, rfl, hclosed⟩ := Routine.leads_access_done.mp hpop
          cases closed with
          | true => exact ⟨[], u, s₁, u', s₂, es₁, rfl⟩
          | false =>
              obtain ⟨es₂, es₃, x, rfl, -, hidle⟩ := Routine.leads_bind_done.mp hclosed
              cases x with
              | error e => simp at hidle
              | ok action =>
                  have hlast : ShowsEnd es₃ := by
                    cases action with
                    | none =>
                        obtain ⟨es₄, es₅, _, rfl, -, hagain⟩ := Routine.leads_bind_done.mp hidle
                        exact (ih hagain).append es₄
                    | detached | repacked => exact ih hidle
                  exact (hlast.append es₂).append [_, _]

lemma work_leads_stop {w compileMillis : Nat} {s : Summary} {es : List Event}
    (hes : (Routine.work rounds c w compileMillis).Leads es (.done (.ok s))) : ShowsEnd es := by
  obtain ⟨es₁, es₂, _, rfl, -, hrest⟩ := Routine.leads_bind_done.mp hes
  exact (workRounds_leads_stop hrest).append es₁

/-- A worker stops at a queue that is closed and empty, and the queue stays so. -/
lemma Pool.drained (hpool : Pool rounds c crew worker millis P) (hrun : System.Run P h Q)
    {w compileMillis : Nat} {s : Summary}
    (hx : P.Returns t (Routine.work rounds c w compileMillis) h (.ok s)) :
    Q.shared.queue.tasks = [] ∧ Q.shared.queue.isClosed = true := by
  have hadmits := fun u => (hpool.parties u).heeds (k := {})
  obtain ⟨es₁, u, s₁, u', s₂, es₂, hown⟩ := work_leads_stop hx.2
  rw [List.append_cons] at hown
  obtain ⟨h₁, h₂, rfl, hbefore, -⟩ := exists_of_own_eq_append_cons hown
  obtain ⟨R, R', hR, hstep, hrest⟩ := hrun.at_event
  -- the worker has the lock from its look for a task to its look whether the queue is closed
  have hempty : R.shared.queue.tasks = [] := by
    refine (hpool.guarded.sight (t := t) hR (sight_nothing _ _)).fits.empty ?_
    rw [hbefore, Conduct.run_append]
    rfl
  obtain ⟨hanswer, hkept⟩ := effect_access.mp hstep.effect
  have hclosed : R.shared.queue.isClosed = true := hanswer.symm
  have hsame : R'.shared = R.shared := hkept
  have hnothing := pushed_of_admits hpool.guarded hadmits (hR.trans (.step hstep (.refl R'))) hrest
    (by rw [hsame]; exact hclosed)
  have hqueue := hrest.conservation
  rw [hsame, hempty, hnothing, List.append_nil] at hqueue
  refine ⟨(List.append_eq_nil_iff.mp hqueue.symm).2, ?_⟩
  exact hrest.still_closed (by rw [hsame]; exact hclosed)

/-! ### When all workers have stopped -/

/-- The workers `crew` have stopped with the summaries `s`, after the history `h`. -/
structure Settled (c : Config) (crew : Finset ThreadId) (s : ThreadId → Summary) (h : List Event)
    (Q : System) : Prop where
  /-- The queue is empty. -/
  empty : Q.shared.queue.tasks = []
  /-- The tasks that left it are the accepted ones, each once. -/
  handled : (departures h).map (·.2) = pushed h
  /-- Each was taken by a worker. -/
  takers : ∀ d ∈ departures h, d.1 ∈ crew
  /-- The jobs of a worker are the tasks that it took. -/
  jobs : ∀ t ∈ crew, ((ledger (own t h)).jobs.map (·.task)).reverse =
    ((departures h).filter (·.1 = t)).map (·.2)
  /-- A job is left to the simple tier exactly if it is forced to. -/
  outcome : ∀ t ∈ crew, ∀ j ∈ (ledger (own t h)).jobs, j.compiled = !j.isForced c
  /-- The summary of a worker counts its jobs. -/
  compiled : ∀ t ∈ crew, (s t).compiled = (ledger (own t h)).jobs.countP (·.compiled)
  forced : ∀ t ∈ crew, (s t).forcedSimple = (ledger (own t h)).jobs.countP (!·.compiled)
  /-- All summaries together count the accepted tasks. -/
  sum : ∑ t ∈ crew, ((s t).compiled + (s t).forcedSimple) = (pushed h).length

/-- The counters of a service that started with none of them, modulo `2 ^ 64`. -/
structure Counted (crew : Finset ThreadId) (s : ThreadId → Summary) (h : List Event)
    (k : Counters) : Prop where
  methods : k.methodsCompiled = UInt64.ofNat (∑ t ∈ crew, (s t).compiled)
  ticks : k.ticks = UInt64.ofNat (pushed h).length
  installs : k.jit.installs = k.methodsCompiled
  blobs : k.jit.blobBytes = 1024 * k.methodsCompiled
  codes : k.jit.codeBytes = 640 * k.methodsCompiled

/-- The tasks of one kind that left the queue are counted event by event. -/
lemma countP_popped (q : CompileTask → Bool) (h : List Event) :
    (popped h).countP q = total (·.popped?.toList.countP q) h := by
  induction h with
  | nil => rfl
  | cons e h ih => rw [popped_cons, List.countP_append, ih, total_cons]

lemma popped?_of_not_isOfJob {e : Event} (he : e.action.isOfJob = false) : e.popped? = none := by
  obtain ⟨t, a, x, s⟩ := e
  rcases a with a | p | c
  · cases a <;> first | rfl | cases he
  · rfl
  · rfl

lemma added_of_not_isOfJob {k : Counter} {e : Event} (hk : k.isOfJob = true)
    (he : e.action.isOfJob = false) : e.added k = 0 := by
  obtain ⟨t, a, x, s⟩ := e
  rcases a with a | p | c
  · cases a with
    | addCounter k' n =>
        refine if_neg ?_
        rintro rfl
        exact Bool.false_ne_true (he.symm.trans hk)
    | _ => rfl
  · rfl
  · rfl

/-- The tasks that left the queue were taken by workers. -/
lemma Pool.takers (hpool : Pool rounds c crew worker millis P) (hrun : System.Run P h Q) :
    ∀ d ∈ departures h, d.1 ∈ crew := by
  intro d hd
  obtain ⟨e, he, hed⟩ := List.mem_filterMap.mp hd
  by_contra ht
  obtain ⟨task, htask, rfl⟩ := Option.map_eq_some_iff.mp hed
  have hnone := popped?_of_not_isOfJob (hpool.not_isOfJob hrun e he ht)
  rw [hnone] at htask
  cases htask

/-- What the workers added to a counter of the jobs is what it shows. -/
lemma Pool.counter (hpool : Pool rounds c crew worker millis P) (hrun : System.Run P h Q)
    (hzero : P.shared.service.counters = {}) {k : Counter} (hk : k.isOfJob = true) :
    Q.shared.service.counters.get k =
      UInt64.ofNat (∑ t ∈ crew, (ledger (own t h)).added k) := by
  have hstart : P.shared.service.counters.get k = 0 := by
    rw [hzero]
    rcases k with _ | _ | _ | ⟨_ | _⟩ | ⟨_ | _⟩ | ⟨_ | _⟩ | ⟨_ | _⟩ <;> rfl
  have hothers : ∀ e ∈ h, e.thread ∉ crew → e.added k = 0 :=
    fun e he ht => added_of_not_isOfJob hk (hpool.not_isOfJob hrun e he ht)
  rw [hrun.counter, hstart, UInt64.zero_add, ← sum_total_own crew hothers]
  exact congrArg UInt64.ofNat (Finset.sum_congr rfl fun t _ => (added_ledger hk).symm)

variable {s : ThreadId → Summary}

/-- The jobs of one kind of all workers together are as many as the tasks of this kind that left the
queue. -/
lemma Pool.sum_jobs (hpool : Pool rounds c crew worker millis P) (hrun : System.Run P h Q)
    (q : CompileTask → Bool) :
    ∑ t ∈ crew, (ledger (own t h)).jobs.countP (q ·.task) = (popped h).countP q := by
  have hothers : ∀ e ∈ h, e.thread ∉ crew → e.popped?.toList.countP q = 0 := by
    intro e he ht
    rw [popped?_of_not_isOfJob (hpool.not_isOfJob hrun e he ht)]
    rfl
  have hjobs : ∀ t, (ledger (own t h)).jobs.countP (q ·.task) =
      total (·.popped?.toList.countP q) (own t h) := by
    intro t
    rw [← countP_popped, ← tasks_ledger, List.countP_reverse, List.countP_map]
    rfl
  rw [countP_popped, ← sum_total_own crew hothers]
  exact Finset.sum_congr rfl fun t _ => hjobs t

/-- Of an empty queue everything that was accepted has left. -/
lemma Pool.popped_eq_pushed (hpool : Pool rounds c crew worker millis P) (hrun : System.Run P h Q)
    (hempty : Q.shared.queue.tasks = []) : popped h = pushed h := by
  have hqueue := hrun.conservation
  rw [hpool.queue, hempty, List.append_nil] at hqueue
  exact hqueue.symm

/-- When the queue is empty, there are as many jobs as accepted tasks. -/
lemma Pool.sum_length_jobs (hpool : Pool rounds c crew worker millis P) (hrun : System.Run P h Q)
    (hempty : Q.shared.queue.tasks = []) :
    ∑ t ∈ crew, (ledger (own t h)).jobs.length = (pushed h).length := by
  have hcount := hpool.sum_jobs hrun fun _ => true
  simpa [hpool.popped_eq_pushed hrun hempty] using hcount

/-- A counter to which every job that compiled adds `r` shows `r` times their number. -/
lemma Pool.counter_mul (hpool : Pool rounds c crew worker millis P) (hrun : System.Run P h Q)
    (hzero : P.shared.service.counters = {}) {k : Counter} (hk : k.isOfJob = true) {r : Nat}
    (hr : ∀ t ∈ crew, (ledger (own t h)).added k = r * (s t).compiled) :
    Q.shared.service.counters.get k =
      UInt64.ofNat r * UInt64.ofNat (∑ t ∈ crew, (s t).compiled) := by
  rw [hpool.counter hrun hzero hk, Finset.sum_congr rfl hr, ← Finset.mul_sum, UInt64.ofNat_mul]

/-- Workers that have returned leave balanced ledgers behind. -/
lemma balanced_of_crew (hsim : ∀ e ∈ h, e.thread ∈ crew → e.action.Simulated e.answer)
    (hs : ∀ t ∈ crew, P.Returns t (Routine.work rounds c (worker t) (millis t)) h (.ok (s t))) :
    ∀ t ∈ crew, (ledger (own t h)).Balanced c (s t) := by
  intro t ht
  have hown : ∀ e ∈ own t h, e.action.Simulated e.answer := by
    intro e he
    obtain ⟨hmem, rfl⟩ := mem_own.mp he
    exact hsim e hmem ht
  obtain ⟨s', hs', hbalanced⟩ := balanced_of_returns hown (hs t ht)
  cases hs'
  exact hbalanced

/-- When the queue is empty, workers with balanced ledgers have settled everything. -/
lemma Pool.settled (hpool : Pool rounds c crew worker millis P) (hrun : System.Run P h Q)
    (hempty : Q.shared.queue.tasks = [])
    (hbalanced : ∀ t ∈ crew, (ledger (own t h)).Balanced c (s t)) : Settled c crew s h Q where
  empty := hempty
  handled := (map_snd_departures h).trans (hpool.popped_eq_pushed hrun hempty)
  takers := hpool.takers hrun
  jobs t _ := by rw [tasks_ledger, popped_own]
  outcome t ht := (hbalanced t ht).outcome
  compiled t ht := (hbalanced t ht).compiled
  forced t ht := (hbalanced t ht).forced
  sum := by
    have hlength : ∀ t ∈ crew, (s t).compiled + (s t).forcedSimple =
        (ledger (own t h)).jobs.length := by
      intro t ht
      rw [(hbalanced t ht).compiled, (hbalanced t ht).forced,
        List.length_eq_countP_add_countP (·.compiled)]
      simp
    rw [Finset.sum_congr rfl hlength, hpool.sum_length_jobs hrun hempty]

/-- When the queue is empty, the counters show what workers with balanced ledgers did. -/
lemma Pool.counted (hpool : Pool rounds c crew worker millis P) (hrun : System.Run P h Q)
    (hempty : Q.shared.queue.tasks = []) (hzero : P.shared.service.counters = {})
    (hbalanced : ∀ t ∈ crew, (ledger (own t h)).Balanced c (s t)) :
    Counted crew s h Q.shared.service.counters := by
  have hmethods : Q.shared.service.counters.methodsCompiled =
      UInt64.ofNat (∑ t ∈ crew, (s t).compiled) := by
    refine (hpool.counter hrun hzero (k := .methodsCompiled) rfl).trans (congrArg _ ?_)
    exact Finset.sum_congr rfl fun t ht => (hbalanced t ht).methods
  refine ⟨hmethods, ?_, ?_, ?_, ?_⟩
  · refine (hpool.counter hrun hzero (k := .ticks) rfl).trans (congrArg _ ?_)
    rw [Finset.sum_congr rfl fun t ht => (hbalanced t ht).ticks, hpool.sum_length_jobs hrun hempty]
  · rw [hmethods]
    refine (hpool.counter hrun hzero (k := .installs .jit) rfl).trans (congrArg _ ?_)
    exact Finset.sum_congr rfl fun t ht => (hbalanced t ht).installs
  · rw [hmethods]
    exact hpool.counter_mul hrun hzero (k := .blobBytes .jit) rfl fun t ht => (hbalanced t ht).blobs
  · rw [hmethods]
    exact hpool.counter_mul hrun hzero (k := .codeBytes .jit) rfl fun t ht => (hbalanced t ht).codes

/-- **The worker pool takes up every task once and accounts for it.** At least one compiler thread
works on a queue that others fill and close, in any order, and the simulated runtime answers. A
worker that returns never fails. Once the queue is closed, every worker winds up: it begins at most
one more round for each task that is left, and another one. When all workers have returned, the
queue is empty, every accepted task was taken by exactly one worker and is one of its jobs; the
summaries count the jobs, which are left to the simple tier exactly if they are forced to; and the
counters of the service show the same numbers. -/
theorem pool_accounts (hpool : Pool rounds c crew worker millis P) (hcrew : crew.Nonempty)
    (hreach : System.Run P g R) (hrun : System.Run R h Q)
    (hsim : ∀ e ∈ g ++ h, e.thread ∈ crew → e.action.Simulated e.answer) :
    (∀ t ∈ crew, ∀ x,
      P.Returns t (Routine.work rounds c (worker t) (millis t)) (g ++ h) x → ∃ s, x = .ok s) ∧
      (R.shared.queue.isClosed = true → ∀ t ∈ crew,
        WindsUp t rounds ((own t g).countP (·.action.isPop)) R.shared.queue.length h Q) ∧
      ∀ s : ThreadId → Summary,
        (∀ t ∈ crew,
          P.Returns t (Routine.work rounds c (worker t) (millis t)) (g ++ h) (.ok (s t))) →
        Settled c crew s (g ++ h) Q ∧
          (P.shared.service.counters = {} →
            Counted crew s (g ++ h) Q.shared.service.counters) := by
  have hown : ∀ t ∈ crew, ∀ e ∈ own t (g ++ h), e.action.Simulated e.answer := by
    intro t ht e he
    obtain ⟨hmem, rfl⟩ := mem_own.mp he
    exact hsim e hmem ht
  refine ⟨fun t ht x hx => ?_, fun hclosed t ht => ?_, fun s hs => ?_⟩
  · obtain ⟨s, hs, -⟩ := balanced_of_returns (hown t ht) hx
    exact ⟨s, hs⟩
  · exact hpool.windsUp ht hreach hrun (hown t ht) hclosed
  · obtain ⟨t₀, ht₀⟩ := hcrew
    have hempty := (hpool.drained (hreach.trans hrun) (hs t₀ ht₀)).1
    have hbalanced := balanced_of_crew hsim hs
    exact ⟨hpool.settled (hreach.trans hrun) hempty hbalanced,
      fun hzero => hpool.counted (hreach.trans hrun) hempty hzero hbalanced⟩

end Pool

/-! ### A small pool -/

/-- Two workers, and a thread that submits two tasks, one of the application and one of the compiler
itself, and closes the queue. -/
def smallPool : System where
  shared := {}
  threads
    | 1 => (Routine.submit (workloadTask 0)).bind fun _ =>
        (Routine.submit (workloadTask 1)).bind fun _ => Routine.close.bind fun _ => .done ()
    | 2 => (Routine.work 3 {} 0 0).bind fun _ => .done ()
    | 3 => (Routine.work 3 {} 1 0).bind fun _ => .done ()
    | _ => .done ()

/-- The two tasks are submitted and the queue is closed. -/
def smallPoolStart : List Event × System :=
  smallPool.play Call.simulated (List.replicate 19 1)

/-- Each worker takes a task, and both stop. -/
def smallPoolRest : List Event × System :=
  smallPoolStart.2.play Call.simulated
    (List.replicate 5 2 ++ List.replicate 40 3 ++ List.replicate 40 2)

lemma pool_smallPool : Pool 3 {} {2, 3} (· - 2) (fun _ => 0) smallPool where
  lock := rfl
  queue := rfl
  nobody := rfl
  working t ht := by
    rcases Finset.mem_insert.mp ht with rfl | ht
    · rfl
    · obtain rfl := Finset.mem_singleton.mp ht
      rfl
  others t ht := by
    have hclose : Routine.close.Only (·.isPush = false) :=
      Routine.only_close (fun _ => Action.isPush_of_isLocking) rfl
    simp only [smallPool]
    split
    · exact .submit fun _ => .submit fun _ => .operate .close hclose fun _ => .done
    · simp at ht
    · simp at ht
    · exact .done
  aside t ht := by
    have hvisit : ∀ {a : Action}, a.isVisit = true → a.isOfJob = false :=
      Action.not_isOfJob_of_isVisit
    have hsubmit : ∀ t, (Routine.submit t).Only (·.isOfJob = false) :=
      Routine.only_submit fun _ => hvisit
    have hclose : Routine.close.Only (·.isOfJob = false) :=
      Routine.only_close (fun _ ha => hvisit (Action.isVisit_of_isLocking ha)) rfl
    simp only [smallPool]
    split
    · exact (hsubmit _).bind fun _ => (hsubmit _).bind fun _ => hclose.bind fun _ => trivial
    · simp at ht
    · simp at ht
    · trivial

/-- Both workers of the small pool stop, each after one task: the first one compiled its task, and
that of the other one is in the compiler's own module and was left to the simple tier. -/
theorem pool_accounts_smallPool :
    ∃ s, (s 2).compiled = 1 ∧ (s 3).forcedSimple = 1 ∧
      (∀ t ∈ ({2, 3} : Finset ThreadId), smallPool.Returns t (Routine.work 3 {} (t - 2) 0)
        (smallPoolStart.1 ++ smallPoolRest.1) (.ok (s t))) ∧
      Settled {} {2, 3} s (smallPoolStart.1 ++ smallPoolRest.1) smallPoolRest.2 ∧
      Counted {2, 3} s (smallPoolStart.1 ++ smallPoolRest.1)
        smallPoolRest.2.shared.service.counters ∧
      WindsUp 2 3 0 2 smallPoolRest.1 smallPoolRest.2 := by
  have hreach : System.Run smallPool smallPoolStart.1 smallPoolStart.2 := System.run_play _ _ _
  have hrun : System.Run smallPoolStart.2 smallPoolRest.1 smallPoolRest.2 := System.run_play _ _ _
  have hsim : ∀ e ∈ smallPoolStart.1 ++ smallPoolRest.1, e.thread ∈ ({2, 3} : Finset ThreadId) →
      e.action.Simulated e.answer := by
    intro e he _
    rcases List.mem_append.mp he with he | he
    · exact simulated_play _ _ e he
    · exact simulated_play _ _ e he
  have hclosed : smallPoolStart.2.shared.queue.isClosed = true := by decide +kernel
  have hleft : smallPoolStart.2.shared.queue.length = 2 := by decide +kernel
  have hbegun : (own 2 smallPoolStart.1).countP (·.action.isPop) = 0 := by decide +kernel
  have hdone : ∀ t ∈ ({2, 3} : Finset ThreadId), (smallPoolRest.2.threads t).isDone = true := by
    decide +kernel
  obtain ⟨hok, hwinds, hsettled⟩ :=
    pool_accounts pool_smallPool (Finset.insert_nonempty _ _) hreach hrun hsim
  have hreturns : ∀ t ∈ ({2, 3} : Finset ThreadId), ∃ s,
      smallPool.Returns t (Routine.work 3 {} (t - 2) 0) (smallPoolStart.1 ++ smallPoolRest.1)
        (.ok s) := by
    intro t ht
    obtain ⟨x, -, hx⟩ := (hreach.trans hrun).exists_returns (pool_smallPool.working t ht)
      (fun _ => .inl rfl) (hdone t ht)
    obtain ⟨s, rfl⟩ := hok t ht x hx
    exact ⟨s, hx⟩
  have : Nonempty Summary := ⟨{}⟩
  choose! s hs using hreturns
  obtain ⟨hs', hcounted⟩ := hsettled s hs
  have hfirst : (s 2).compiled = 1 := by
    rw [hs'.compiled 2 (by decide)]
    decide +kernel
  have hother : (s 3).forcedSimple = 1 := by
    rw [hs'.forced 3 (by decide)]
    decide +kernel
  have hwindsUp := hwinds hclosed 2 (Finset.mem_insert_self _ _)
  rw [hleft, hbegun] at hwindsUp
  exact ⟨s, hfirst, hother, hs, hs', hcounted rfl, hwindsUp⟩

end ExternalCompiler
