/-
What a compiler thread does with the tasks that it takes:

* `Job`, `Ledger`: the tasks that a worker took, what it found out about each and did with it, and
  what it added to the counters;
* `jobAccount`: how its actions change its ledger; it takes a task only if it did not just find the
  queue empty and closed;
* `Ledger.Balanced`: the summary, the jobs and the counters agree; `meets_compile`: taking up a task
  keeps that so;
* `meets_work`: a worker of a simulated runtime stops with such a summary, and never with an error.
-/
import ExternalCompiler.Worker.Loop
import ExternalCompiler.Proofs.Account
import ExternalCompiler.Proofs.Simulation.Runtime

namespace ExternalCompiler

/-! ### Jobs -/

/-- A task that a worker took: whether its last look at the bootstrap window, which is the one of
the gate, found it open, and whether the external compiler compiled the method. -/
structure Job where
  task : CompileTask
  window : Bool := false
  compiled : Bool := false
deriving DecidableEq

/-- The simulated runtime keeps the module of the task for itself, and nothing lifts that: the
compiler is not hosted, and no bootstrap was running when the gate was consulted. -/
def Job.isForced (c : Config) (j : Job) : Bool :=
  !c.isHosted && !j.window && simulatedExclusions.contains j.task.method.module

/-- The counter belongs to the jobs: the methods, the ticks and the installs of the application. -/
def Counter.isOfJob : Counter → Bool
  | .methodsCompiled | .ticks | .installs .jit | .blobBytes .jit | .codeBytes .jit => true
  | _ => false

/-- What a worker accounts for: its jobs, the newest first; what it added to the counters of the
jobs; how many rounds it began; and whether it just found nothing to do. -/
structure Ledger where
  jobs : List Job := []
  added : Counter → Nat := fun _ => 0
  rounds : Nat := 0
  missed : Bool := false

namespace Ledger

/-- A round begins with a task. -/
def take (l : Ledger) (t : CompileTask) : Ledger :=
  { l with jobs := { task := t } :: l.jobs, rounds := l.rounds + 1 }

/-- A round begins without a task. -/
def miss (l : Ledger) : Ledger :=
  { l with rounds := l.rounds + 1, missed := true }

/-- The worker looks whether the queue is closed; if it is not, there may be something to do
again. -/
def check (l : Ledger) (closed : Bool) : Ledger :=
  { l with missed := l.missed && closed }

/-- The worker looks at the window. -/
def look (l : Ledger) (window : Bool) : Ledger :=
  { l with jobs := l.jobs.modifyHead fun j => { j with window := window } }

/-- The worker adds to a counter; to have compiled a method is what it did with its job. -/
def add (l : Ledger) (k : Counter) (n : UInt64) : Ledger :=
  if k.isOfJob then
    { l with
      added := Function.update l.added k (l.added k + n.toNat)
      jobs := if k = .methodsCompiled then l.jobs.modifyHead fun j => { j with compiled := true }
        else l.jobs }
  else l

/-- All additions of a list, one after the other. -/
def addAll (l : Ledger) (list : List Addition) : Ledger :=
  list.foldl (fun l a => l.add a.1 a.2) l

end Ledger

/-- How a worker keeps its ledger while the simulated runtime answers. It does not take a task while
it has found nothing to do, and it begins at least `limit` rounds before it is not unrolled any
further. -/
def jobAccount (limit : Nat) : Account Ledger where
  after
    | l, .access .popTask, (some t : Option CompileTask) => l.take t
    | l, .access .popTask, none => l.miss
    | l, .access .readClosed, (closed : Bool) => l.check closed
    | l, .access .readBootstrapping, (window : Bool) => l.look window
    | l, .access (.addCounter k n), _ => l.add k n
    | l, _, _ => l
  asks
    | l, .access .popTask => l.missed = false
    | _, _ => True
  expects _ a x := a.Simulated x
  halts l := limit ≤ l.rounds

/-! ### The summary and the ledger -/

/-- A summary, the jobs and the counters agree: a method is compiled unless it is left to the simple
tier, and each is counted where it belongs. -/
structure Ledger.Balanced (c : Config) (s : Summary) (l : Ledger) : Prop where
  outcome : ∀ j ∈ l.jobs, j.compiled = !j.isForced c
  compiled : s.compiled = l.jobs.countP (·.compiled)
  forced : s.forcedSimple = l.jobs.countP (!·.compiled)
  methods : l.added .methodsCompiled = s.compiled
  ticks : l.added .ticks = l.jobs.length
  installs : l.added (.installs .jit) = s.compiled
  blobs : l.added (.blobBytes .jit) = 1024 * s.compiled
  codes : l.added (.codeBytes .jit) = 640 * s.compiled

namespace Ledger.Balanced

variable {c : Config} {s : Summary} {l : Ledger} {t : CompileTask} {window : Bool}

/-- A new worker did nothing. -/
lemma start (c : Config) : Balanced c {} {} where
  outcome := by simp
  compiled := rfl
  forced := rfl
  methods := rfl
  ticks := rfl
  installs := rfl
  blobs := rfl
  codes := rfl

/-- How a wait ended makes no difference to the jobs. -/
lemma afterIdle (h : Balanced c s l) (action : IdleAction) : Balanced c (s.afterIdle action) l := by
  cases action <;> exact ⟨h.outcome, h.compiled, h.forced, h.methods, h.ticks, h.installs, h.blobs,
    h.codes⟩

/-- What was found in the queue makes no difference either. -/
lemma miss (h : Balanced c s l) : Balanced c s l.miss :=
  ⟨h.outcome, h.compiled, h.forced, h.methods, h.ticks, h.installs, h.blobs, h.codes⟩

lemma check (h : Balanced c s l) (closed : Bool) : Balanced c s (l.check closed) :=
  ⟨h.outcome, h.compiled, h.forced, h.methods, h.ticks, h.installs, h.blobs, h.codes⟩

/-- A task that is left to the simple tier only ticks. -/
lemma forced_task (h : Balanced c s l)
    (hforced : Job.isForced c { task := t, window := window } = true) :
    Balanced c { s with forcedSimple := s.forcedSimple + 1 }
      (((l.take t).look window).addAll ticked) := by
  obtain ⟨houtcome, hcompiled, hsimple, hmethods, hticks, hinstalls, hblobs, hcodes⟩ := h
  have hledger : ((l.take t).look window).addAll ticked =
      { jobs := { task := t, window := window } :: l.jobs
        added := Function.update l.added .ticks (l.added .ticks + 1)
        rounds := l.rounds + 1
        missed := l.missed } := rfl
  rw [hledger]
  refine ⟨List.forall_mem_cons.mpr ⟨by simp [hforced], houtcome⟩, ?_, ?_, ?_, ?_, ?_, ?_, ?_⟩
  · simpa using hcompiled
  · simpa using hsimple
  · simpa using hmethods
  · simpa using hticks
  · simpa using hinstalls
  · simpa using hblobs
  · simpa using hcodes

/-- A task that the external compiler compiles. -/
lemma compiled_task (h : Balanced c s l)
    (hforced : Job.isForced c { task := t, window := window } = false) :
    Balanced c { s with compiled := s.compiled + 1 }
      ((((l.take t).look window).addAll (installed .jit Routine.blobBytes
        Routine.codeBytes)).addAll methodCompiled) := by
  obtain ⟨houtcome, hcompiled, hsimple, hmethods, hticks, hinstalls, hblobs, hcodes⟩ := h
  have hjobs : ((((l.take t).look window).addAll (installed .jit Routine.blobBytes
      Routine.codeBytes)).addAll methodCompiled).jobs =
        { task := t, window := window, compiled := true } :: l.jobs := rfl
  have hadded : ((((l.take t).look window).addAll (installed .jit Routine.blobBytes
      Routine.codeBytes)).addAll methodCompiled).added =
        Function.update (Function.update (Function.update (Function.update (Function.update l.added
          (.installs .jit) (l.added (.installs .jit) + 1))
          (.blobBytes .jit) (l.added (.blobBytes .jit) + 1024))
          (.codeBytes .jit) (l.added (.codeBytes .jit) + 640))
          .methodsCompiled (l.added .methodsCompiled + 1))
          .ticks (l.added .ticks + 1) := rfl
  have houtcome' : true = !Job.isForced c { task := t, window := window, compiled := true } :=
    (congrArg not hforced).symm
  constructor
  · rw [hjobs]
    exact List.forall_mem_cons.mpr ⟨houtcome', houtcome⟩
  · simpa [hjobs] using hcompiled
  · simpa [hjobs] using hsimple
  · simpa [hadded] using hmethods
  · simpa [hadded, hjobs] using hticks
  · simpa [hadded] using hinstalls
  · simpa [hadded, Nat.mul_add] using hblobs
  · simpa [hadded, Nat.mul_add] using hcodes

end Ledger.Balanced

namespace Routine

variable {limit : Nat} {l : Ledger}

/-! ### One task -/

lemma meets_markRequestHandled :
    markRequestHandled.Meets (jobAccount limit) l fun _ l' => ∃ window, l' = l.look window := by
  refine ⟨trivial, fun window _ => ?_⟩
  cases window with
  | false => exact ⟨_, rfl⟩
  | true => exact ⟨trivial, fun _ _ => ⟨_, rfl⟩⟩

/-- The gate asks the simulated runtime. -/
lemma meets_forcedSimple (window hosted : Bool) (module : ModuleId) :
    (forcedSimple window hosted module).Meets (jobAccount limit) l fun forced l' =>
      l' = l ∧ forced = (!hosted && !window && simulatedExclusions.contains module) := by
  rw [forcedSimple]
  split_ifs with hlifted
  · refine ⟨rfl, ?_⟩
    cases window <;> cases hosted <;> first | rfl | cases hlifted
  · refine ⟨trivial, fun handle hhandle => ?_⟩
    obtain rfl : handle = some simulatedHandle := hhandle rfl
    refine ⟨trivial, fun modules hmodules => ?_⟩
    obtain rfl : modules = some simulatedExclusions := hmodules rfl
    refine ⟨rfl, ?_⟩
    cases window <;> cases hosted <;> first | rfl | exact absurd rfl hlifted

lemma meets_consultGate (c : Config) (m : Method) :
    (consultGate c m).Meets (jobAccount limit) l fun forced l' =>
      ∃ window, l' = l.look window ∧
        forced = (!c.isHosted && !window && simulatedExclusions.contains m.module) :=
  ⟨trivial, fun window _ => (meets_forcedSimple window _ _).mono fun _ _ h => ⟨window, h⟩⟩

lemma meets_record (list : List Addition) :
    (record list).Meets (jobAccount limit) l fun _ l' => l' = l.addAll list := by
  induction list generalizing l with
  | nil => rfl
  | cons a rest ih => exact ⟨trivial, fun _ _ => ih⟩

/-- What does not belong to the jobs changes nothing that is accounted for. -/
lemma meets_attach (w : Nat) :
    (attach w).Meets (jobAccount limit) l fun _ l' => l' = l := by
  refine ⟨trivial, fun attached _ => ?_⟩
  cases attached with
  | true => rfl
  | false => exact ⟨trivial, fun _ _ => ⟨trivial, fun _ _ => rfl⟩⟩

lemma meets_connect (c : Config) (w : Nat) :
    (connect c w).Meets (jobAccount limit) l fun _ l' => l' = l := by
  rw [connect]
  split_ifs
  · refine ⟨trivial, fun attached _ => ?_⟩
    cases attached with
    | true => rfl
    | false =>
        refine (meets_attach w).bind fun _ l' hl' => ?_
        subst hl'
        exact meets_record _
  · rfl

lemma meets_addTimeSince (start : Nat) {timer : Counter} (ht : timer.isOfJob = false) :
    (addTimeSince start timer).Meets (jobAccount limit) l fun _ l' => l' = l := by
  refine ⟨trivial, fun finish _ => (meets_record _).mono fun _ l' hl' => ?_⟩
  have hkept : l.addAll (timed timer (.ofMillis (finish - start))) = l := by
    simp [Ledger.addAll, timed, Ledger.add, ht]
  exact hl'.trans hkept

lemma meets_compileAndInstall (compileMillis : Nat) :
    (compileAndInstall compileMillis).Meets (jobAccount limit) l fun _ l' =>
      l' = (l.addAll (installed .jit blobBytes codeBytes)).addAll methodCompiled := by
  refine ⟨trivial, fun compileStart _ => ⟨trivial, fun _ _ => ?_⟩⟩
  refine (meets_addTimeSince compileStart rfl).bind fun _ l' hl' => ?_
  subst hl'
  refine ⟨trivial, fun installStart _ => ?_⟩
  refine (meets_record _).bind fun _ l' hl' => ?_
  subst hl'
  refine (meets_addTimeSince installStart rfl).bind fun _ l' hl' => ?_
  subst hl'
  exact meets_record _

/-- Taking up a task keeps the ledger balanced. -/
lemma meets_compile {c : Config} {s : Summary} (hl : l.Balanced c s) (w compileMillis : Nat)
    (t : CompileTask) :
    (compile c w compileMillis t s).Meets (jobAccount limit) (l.take t) fun s' l' =>
      l'.Balanced c s' ∧ l'.rounds = l.rounds + 1 ∧ l'.missed = l.missed := by
  refine meets_markRequestHandled.bind fun _ l' hl' => ?_
  obtain ⟨before, rfl⟩ := hl'
  refine (meets_consultGate c t.method).bind fun forced l' hl' => ?_
  obtain ⟨window, rfl, hforced⟩ := hl'
  -- only the second look at the window counts
  have hlook : ((l.take t).look before).look window = (l.take t).look window := rfl
  rw [hlook]
  cases forced with
  | true =>
      refine (meets_record _).bind fun _ l' hl' => ?_
      subst hl'
      exact ⟨hl.forced_task hforced.symm, rfl, rfl⟩
  | false =>
      refine (meets_connect c w).bind fun _ l' hl' => ?_
      subst hl'
      refine (meets_compileAndInstall compileMillis).bind fun _ l' hl' => ?_
      subst hl'
      exact ⟨hl.compiled_task hforced.symm, rfl, rfl⟩

/-! ### The hooks -/

lemma meets_lock : lock.Meets (jobAccount limit) l fun _ l' => l' = l :=
  ⟨trivial, fun _ _ => ⟨trivial, fun _ _ => rfl⟩⟩

lemma meets_unlock : unlock.Meets (jobAccount limit) l fun _ l' => l' = l :=
  ⟨trivial, fun _ _ => ⟨trivial, fun _ _ => rfl⟩⟩

/-- Who has not found nothing to do does not do so by a look whether the queue is closed. -/
lemma check_of_not_missed (hl : l.missed = false) (closed : Bool) : l.check closed = l := by
  obtain ⟨jobs, added, rounds, missed⟩ := l
  obtain rfl : missed = false := hl
  rfl

lemma meets_waitForWork (hl : l.missed = false) (millis : Nat) :
    (waitForWork millis).Meets (jobAccount limit) l fun _ l' => l' = l := by
  refine ⟨trivial, fun seen _ => ⟨trivial, fun _ _ => ⟨trivial, fun closed _ => ?_⟩⟩⟩
  have hcheck : (jobAccount limit).after l (.access .readClosed) closed = l :=
    check_of_not_missed hl closed
  cases closed with
  | true => exact ⟨trivial, fun _ _ => hcheck⟩
  | false => exact ⟨trivial, fun _ _ => ⟨trivial, fun _ _ => ⟨trivial, fun _ _ => hcheck⟩⟩⟩

lemma meets_detach (w : Nat) (reason : String) :
    (detach w reason).Meets (jobAccount limit) l fun x l' => x = .ok () ∧ l' = l := by
  refine ⟨trivial, fun x hx => ?_⟩
  obtain rfl : x = .ok () := hx rfl
  exact ⟨trivial, fun _ _ => ⟨rfl, rfl⟩⟩

lemma meets_repack (w : Nat) :
    (repack w).Meets (jobAccount limit) l fun x l' => x = .ok () ∧ l' = l := by
  refine ⟨trivial, fun x hx => ?_⟩
  obtain rfl : x = .ok () := hx rfl
  exact ⟨trivial, fun _ _ => ⟨rfl, rfl⟩⟩

lemma meets_afterWait (w : Nat) (outcome : WaitOutcome) :
    (afterWait w outcome).Meets (jobAccount limit) l fun x l' =>
      (∃ action, x = .ok action) ∧ l' = l := by
  cases outcome with
  | timedOut =>
      refine (meets_detach w idleReason).bind fun x l' h => ?_
      obtain ⟨rfl, rfl⟩ := h
      exact ⟨⟨_, rfl⟩, rfl⟩
  | notified =>
      refine (meets_repack w).bind fun x l' h => ?_
      obtain ⟨rfl, rfl⟩ := h
      exact ⟨⟨_, rfl⟩, rfl⟩

lemma meets_idleOut (hl : l.missed = false) (w delay : Nat) :
    (idleOut w delay).Meets (jobAccount limit) l fun x l' =>
      (∃ action, x = .ok action) ∧ l' = l := by
  refine (meets_waitForWork hl delay).bind fun outcome l' hl' => ?_
  subst hl'
  refine meets_unlock.bind fun _ l' hl' => ?_
  subst hl'
  refine (meets_afterWait w outcome).bind fun x l' h => ?_
  obtain ⟨⟨action, rfl⟩, rfl⟩ := h
  refine meets_lock.bind fun _ l' hl' => ?_
  exact ⟨⟨_, rfl⟩, hl'⟩

lemma meets_onEmptyQueue (hl : l.missed = false) (c : Config) (w : Nat) :
    (onEmptyQueue c w).Meets (jobAccount limit) l fun x l' =>
      (∃ action, x = .ok action) ∧ l' = l := by
  rw [onEmptyQueue]
  split
  · refine ⟨trivial, fun attached _ => ?_⟩
    cases attached with
    | false => exact ⟨⟨_, rfl⟩, rfl⟩
    | true =>
        cases hdelay : c.idleDelay with
        | none =>
            simp only [done_bind, if_true]
            exact ⟨⟨_, rfl⟩, rfl⟩
        | some delay =>
            simp only [done_bind, if_true]
            refine ⟨trivial, fun uptime _ => ?_⟩
            simp only [done_bind]
            split
            · exact ⟨⟨_, rfl⟩, rfl⟩
            · exact meets_idleOut hl w delay
  · exact ⟨⟨_, rfl⟩, rfl⟩

lemma meets_stopping (c : Config) (w : Nat) :
    (stopping c w).Meets (jobAccount limit) l fun x l' => x = .ok () ∧ l' = l := by
  rw [stopping]
  split
  · refine ⟨trivial, fun attached _ => ?_⟩
    cases attached with
    | false => exact ⟨rfl, rfl⟩
    | true =>
        refine meets_unlock.bind fun _ l' hl' => ?_
        subst hl'
        refine (meets_detach w stoppingReason).bind fun x l' h => ?_
        obtain ⟨rfl, rfl⟩ := h
        exact meets_lock.bind fun _ l' hl' => ⟨rfl, hl'⟩
  · exact ⟨rfl, rfl⟩

lemma meets_lookAgain (hl : l.missed = false) :
    lookAgain.Meets (jobAccount limit) l fun _ l' => l' = l := by
  refine ⟨trivial, fun waiting _ => ?_⟩
  simp only [done_bind]
  split
  · refine ⟨trivial, fun closed _ => ?_⟩
    have hcheck : (jobAccount limit).after
        ((jobAccount limit).after l (.access .readLength) waiting) (.access .readClosed) closed =
          l := check_of_not_missed hl closed
    rw [hcheck]
    cases closed with
    | true => rfl
    | false => exact (meets_waitForWork hl _).bind fun _ l' hl' => hl'
  · rfl

/-! ### The loop -/

/-- A worker stops with a summary of its ledger, and not with an error. -/
lemma meets_workRounds {c : Config} {rounds : Nat} {s : Summary} (hl : l.Balanced c s)
    (hmissed : l.missed = false) (hlimit : limit ≤ l.rounds + rounds) (w compileMillis : Nat) :
    (workRounds c w compileMillis rounds s).Meets (jobAccount limit) l fun x l' =>
      ∃ s, x = .ok s ∧ l'.Balanced c s := by
  induction rounds generalizing l s with
  | zero => exact hlimit
  | succ n ih =>
      refine ⟨hmissed, fun task _ => ?_⟩
      cases task with
      | some t =>
          refine meets_unlock.bind fun _ l' hl' => ?_
          subst hl'
          refine (meets_compile hl w compileMillis t).bind fun s l' h => ?_
          obtain ⟨hl', hrounds, hmissed'⟩ := h
          refine meets_lock.bind fun _ l'' hl'' => ?_
          subst hl''
          exact ih hl' (hmissed'.trans hmissed) (by omega)
      | none =>
          refine ⟨trivial, fun closed _ => ?_⟩
          cases closed with
          | true =>
              refine (meets_stopping c w).bind fun x l' h => ?_
              obtain ⟨rfl, rfl⟩ := h
              refine meets_unlock.bind fun _ l' hl' => ?_
              subst hl'
              exact ⟨s, rfl, hl.miss⟩
          | false =>
              refine (meets_onEmptyQueue (l := l.miss.check false) rfl c w).bind fun x l' h => ?_
              obtain ⟨⟨action, rfl⟩, rfl⟩ := h
              have hlimit' : limit ≤ (l.miss.check false).rounds + n := by
                simp only [Ledger.check, Ledger.miss]
                omega
              have hnext : ∀ l', l' = l.miss.check false →
                  (workRounds c w compileMillis n (s.afterIdle action)).Meets (jobAccount limit) l'
                    fun x l' => ∃ s, x = .ok s ∧ l'.Balanced c s := by
                rintro l' rfl
                exact ih ((hl.miss.check false).afterIdle action) rfl hlimit'
              cases action with
              | none => exact (meets_lookAgain rfl).bind fun _ => hnext
              | detached | repacked => exact hnext _ rfl

/-- A compiler thread stops with a summary of what it did, and not with an error. -/
lemma meets_work (rounds : Nat) (c : Config) (w compileMillis : Nat) :
    (work rounds c w compileMillis).Meets (jobAccount rounds) {} fun x l =>
      ∃ s, x = .ok s ∧ l.Balanced c s := by
  refine meets_lock.bind fun _ l hl => ?_
  subst hl
  exact meets_workRounds (.start c) rfl (Nat.le_of_eq (Nat.zero_add _).symm) w compileMillis

end Routine

end ExternalCompiler
