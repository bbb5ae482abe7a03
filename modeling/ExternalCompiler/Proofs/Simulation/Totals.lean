/-
The totals of a simulated run do not depend on the order of its threads:

* `seedCount`, `compiledShare`: how many seeds a bootstrap submits, and how many tasks of a run the
  external compiler compiles;
* `isCompiled`, `Options.Ends.outcome`: the module of a task decides what becomes of it, whenever it
  is taken;
* `Options.Ends.sum_compiled`, `Options.Ends.notifications`: so the order of the threads makes no
  difference to what is compiled and to what the runtime is told;
* `Totals`: the totals that are reported; `dueReport`: the report with these totals, spelled out;
* `report_totals`: every run that ends well prints this report.
-/
import Mathlib.Algebra.BigOperators.Fin
import Mathlib.Algebra.BigOperators.Intervals
import Mathlib.Data.List.GetD
import ExternalCompiler.Proofs.Simulation.Report

namespace ExternalCompiler

/-! ### What there is to compile -/

/-- The number of seeds: the bootstrap candidates of the root class, or none in an interpreter. -/
def seedCount (c : Config) : Nat :=
  if c.executionMode = .interpreted then 0 else rootClass.countP (·.isBootstrapCandidate)

/-- How many tasks of a run with `n` application methods the external compiler compiles: all in
hosted mode, and otherwise the seeds and the methods of the application's own module. -/
def compiledShare (c : Config) (n : Nat) : Nat :=
  if c.isHosted then seedCount c + n else seedCount c + (n + 1) / 2

/-- The external compiler compiles the task, if no bootstrap is running. -/
def isCompiled (c : Config) (t : CompileTask) : Bool :=
  c.isHosted || t.method.module != compilerModule

lemma length_seeds (c : Config) : (seeds c).length = seedCount c := by
  rw [seeds, seedCount]
  split_ifs
  · rfl
  · rw [seedTasks, List.length_map, List.countP_eq_length_filter]

/-- All seeds are compiled. -/
lemma countP_seeds (c : Config) : (seeds c).countP (isCompiled c) = seedCount c := by
  rw [← length_seeds, List.countP_eq_length]
  intro t ht
  simp [isCompiled, module_of_mem_seeds ht]

/-- Every other method of a workload is in the compiler's own module. -/
lemma module_workloadTask (i : Nat) :
    (workloadTask i).method.module = if i % 2 = 0 then applicationModule else compilerModule :=
  rfl

lemma countP_workload (c : Config) (n : Nat) :
    (workload n).countP (isCompiled c) = if c.isHosted then n else (n + 1) / 2 := by
  induction n with
  | zero => simp [workload]
  | succ n ih =>
      have hmore : workload (n + 1) = workload n ++ [workloadTask n] := by
        simp [workload, List.range_succ]
      have hne : applicationModule ≠ compilerModule := by decide
      rw [hmore, List.countP_append, ih, List.countP_singleton, isCompiled, module_workloadTask]
      by_cases hhosted : c.isHosted = true
      · simp [hhosted]
      · rcases Nat.mod_two_eq_zero_or_one n with hn | hn
        · simp [hhosted, hn, hne]
          omega
        · simp [hhosted, hn]
          omega

/-! ### Totals -/

/-- The totals that are reported on a run with `n` application methods; counters are words that wrap
around. -/
structure Totals (c : Config) (n : Nat) (s : Shared) (l : List Summary) : Prop where
  methods : s.service.counters.methodsCompiled = UInt64.ofNat (compiledShare c n)
  ticks : s.service.counters.ticks = UInt64.ofNat (seedCount c + n)
  compiled : (l.map (·.compiled)).sum = compiledShare c n
  forced : (l.map (·.forcedSimple)).sum = seedCount c + n - compiledShare c n
  installs : s.service.counters.jit.installs = s.service.counters.methodsCompiled
  notifications : s.runtime.notifications = if c.executionMode = .interpreted then 0 else 1

/-- The report on a run with `n` application methods, line by line: the totals are those that are
due, and the rest is told by the state `s` and the summaries of the workers. -/
def dueReport (c : Config) (n : Nat) (s : Shared) (l : List Summary) : List String :=
  [ "    External Compiler CompileBroker Time:\n",
    "       Compile:        "
      ++ (Duration.ofNanos s.service.counters.compileTime.toNat).secondsText ++ " s\n",
    "       Install Code:   "
      ++ (Duration.ofNanos s.service.counters.jit.time.toNat).secondsText
      ++ " s (installs: " ++ toString (compiledShare c n % 2 ^ 64)
      ++ ", CodeBlob total size: " ++ toString s.service.counters.jit.blobBytes.toNat
      ++ ", CodeBlob code size: " ++ toString s.service.counters.jit.codeBytes.toNat ++ ")\n",
    "\n",
    "    External Compiler Hosted Time:\n",
    s.service.counters.hosted.line "       Install Code:   ",
    "\n",
    "    External Runtime:\n",
    "       attaches: " ++ toString s.runtime.attaches.toNat
      ++ ", detaches: " ++ toString s.runtime.detaches.toNat
      ++ ", repacks: " ++ toString s.runtime.repacks.toNat
      ++ ", bootstrap notifications: "
      ++ toString (if c.executionMode = .interpreted then 0 else 1) ++ "\n" ] ++
  l.zipIdx.map (fun (x, i) =>
    "       jit-compiler-" ++ toString i ++ ": compiled " ++ toString x.compiled
      ++ ", simple tier " ++ toString x.forcedSimple
      ++ ", idle detaches " ++ toString x.idleDetaches
      ++ ", idle repacks " ++ toString x.idleRepacks ++ "\n") ++
  [ "    methods compiled: " ++ toString (compiledShare c n % 2 ^ 64)
      ++ ", compilation ticks: " ++ toString ((seedCount c + n) % 2 ^ 64) ++ "\n" ]

section Totals

variable {bound : Nat} {o : Options} {c : Config} {h : List Event} {Q : System} {l : List Summary}

/-- The main thread has done its part. -/
lemma Options.Ends.driven (hends : o.Ends bound c h Q l) : (mainLedger h).Driven o c := by
  have hexpected := (main_fits hends.run hends.simulated).1
  exact (Routine.main_driveAndClose bound o c).leads hends.main.2 hexpected rfl

/-- The queue is empty at the end. -/
lemma Options.Ends.empty (hends : o.Ends bound c h Q l) : Q.shared.queue.tasks = [] :=
  (main_fits hends.run hends.simulated).2.emptied hends.driven.emptied

/-- The tasks of a run are the seeds and the workload. -/
lemma Options.Ends.pushed_eq (hends : o.Ends bound c h Q l) :
    pushed h = seeds c ++ workload o.appMethods.toNat :=
  (pushed_main hends.run).symm.trans hends.driven.pushed

/-- The summary of a thread. -/
def summaryOf (l : List Summary) (t : ThreadId) : Summary :=
  l.getD (t - 2) {}

lemma Options.Ends.length (hends : o.Ends bound c h Q l) : l.length = o.workers.toNat := by
  rw [← hends.workers.length_eq, List.length_range]

lemma Options.Ends.returns (hends : o.Ends bound c h Q l) : ∀ t ∈ o.crew,
    (o.system bound c).Returns t (Routine.work bound c (t - 2) o.compileMillis.toNat) h
      (.ok (summaryOf l t)) := by
  intro t ht
  obtain ⟨w, rfl⟩ : ∃ w, t = w + 2 := Nat.exists_eq_add_of_le' (Finset.mem_Ico.mp ht).1
  have hw : w < o.workers.toNat := Options.mem_crew.mp ht
  have hl : w < l.length := by
    rw [hends.length]
    exact hw
  have hget := hends.workers.get (List.length_range.symm ▸ hw) hl
  rw [List.get_eq_getElem, List.get_eq_getElem, List.getElem_range] at hget
  rw [summaryOf, Nat.add_sub_cancel, List.getD_eq_getElem _ _ hl]
  exact hget

/-- What the workers sum up is summed up over the list of summaries. -/
lemma Options.Ends.sum_summaryOf (hends : o.Ends bound c h Q l) (f : Summary → Nat) :
    ∑ t ∈ o.crew, f (summaryOf l t) = (l.map f).sum := by
  rw [Options.crew, Finset.sum_Ico_eq_sum_range, Nat.add_sub_cancel, ← hends.length,
    Finset.sum_range, ← Fin.sum_univ_fun_getElem]
  refine Finset.sum_congr rfl fun i _ => ?_
  rw [summaryOf, Nat.add_sub_cancel_left, List.getD_eq_getElem _ _ i.isLt]

lemma Options.Ends.balanced (hends : o.Ends bound c h Q l) :
    ∀ t ∈ o.crew, (ledger (own t h)).Balanced c (summaryOf l t) :=
  balanced_of_crew (fun e he _ => hends.simulated e he) hends.returns

lemma Options.Ends.settled (hends : o.Ends bound c h Q l) : Settled c o.crew (summaryOf l) h Q :=
  (Options.pool_system bound o c).settled hends.run hends.empty hends.balanced

lemma Options.Ends.counted (hends : o.Ends bound c h Q l) :
    Counted o.crew (summaryOf l) h Q.shared.service.counters := by
  refine (Options.pool_system bound o c).counted hends.run hends.empty ?_ hends.balanced
  rw [Options.system_shared]
  rfl

/-- Whenever a task is taken, its module decides what becomes of it. -/
lemma Options.Ends.outcome (hends : o.Ends bound c h Q l) {t : ThreadId} (ht : t ∈ o.crew) :
    ∀ j ∈ (ledger (own t h)).jobs, j.compiled = isCompiled c j.task := by
  intro j hj
  have hmodule := module_of_job hends.run hends.simulated t j hj
  rw [hends.settled.outcome t ht j hj, Job.isForced, isCompiled, simulatedExclusions]
  by_cases hm : j.task.method.module = compilerModule
  · have hwindow : j.window = false := by
      rw [← Bool.not_eq_true]
      exact fun hopen => hmodule hopen hm
    simp [hwindow, hm]
  · simp [hm]

lemma Options.Ends.sum_compiled (hends : o.Ends bound c h Q l) :
    ∑ t ∈ o.crew, (summaryOf l t).compiled = compiledShare c o.appMethods.toNat := by
  have hsettled := hends.settled
  have hpopped : popped h = pushed h := (map_snd_departures h).symm.trans hsettled.handled
  calc ∑ t ∈ o.crew, (summaryOf l t).compiled
      = ∑ t ∈ o.crew, (ledger (own t h)).jobs.countP (isCompiled c ·.task) := by
        refine Finset.sum_congr rfl fun t ht => ?_
        rw [hsettled.compiled t ht]
        exact List.countP_congr fun j hj => by rw [hends.outcome ht j hj]
    _ = (pushed h).countP (isCompiled c) := by
        rw [(Options.pool_system bound o c).sum_jobs hends.run, hpopped]
    _ = compiledShare c o.appMethods.toNat := by
        rw [hends.pushed_eq, List.countP_append, countP_seeds, countP_workload, compiledShare]
        split_ifs <;> rfl

/-- A worker tells the runtime nothing. -/
lemma calls_of_isOfWorker {e : Event} {v : Nat} (he : e.action.isOfWorker v = true) :
    e.calls .notifications = 0 := by
  obtain ⟨t, a, x, s⟩ := e
  cases he using Action.isOfWorker_cases with
  | chore a h => cases h using Action.isChore_cases <;> rfl
  | errand a h =>
      cases h using Action.isErrand_cases with
      | locking a h => cases h using Action.isLocking_cases <;> rfl
      | _ => rfl
  | _ => rfl

/-- The main thread keeps track of what it tells the runtime. -/
lemma told_after (k : MainLedger) (e : Event) :
    (mainAccount.after k e.action e.answer).told = k.told + e.calls .notifications := by
  obtain ⟨t, a, x, s⟩ := e
  rcases a with a | p | k'
  · cases a with
    | countRuntime k' => cases k' <;> rfl
    | _ => rfl
  · rfl
  · cases k' <;> rfl

/-- The runtime was told of the end of a bootstrap as often as the main thread told it. -/
lemma Options.Ends.notifications (hends : o.Ends bound c h Q l) :
    (RuntimeCalls.after {} h).notifications =
      if c.executionMode = .interpreted then 0 else 1 := by
  have hothers : ∀ e ∈ h, e.thread ∉ ({1} : Finset ThreadId) → e.calls .notifications = 0 := by
    intro e he hne
    have hworker := isOfWorker_of_run hends.run e he (by simpa using hne)
    exact calls_of_isOfWorker hworker
  have htold : (mainLedger h).told = total (Event.calls .notifications) (own 1 h) :=
    (Conduct.total_run told_after {} (own 1 h)).trans (Nat.zero_add _)
  have hcount := RuntimeCalls.get_after {} h .notifications
  rw [← sum_total_own {1} hothers, Finset.sum_singleton, ← htold, hends.driven.told] at hcount
  refine hcount.trans ?_
  split_ifs <;> rfl

lemma Options.Ends.totals (hends : o.Ends bound c h Q l) :
    Totals c o.appMethods.toNat (reported h Q) l := by
  have hsettled := hends.settled
  have hcounted := hends.counted
  have hcompiled := hends.sum_compiled
  have hpushed : (pushed h).length = seedCount c + o.appMethods.toNat := by
    rw [hends.pushed_eq, List.length_append, length_seeds, workload, List.length_map,
      List.length_range]
  have hsum := hsettled.sum
  rw [Finset.sum_add_distrib, hcompiled, hpushed] at hsum
  exact
    { methods := hcompiled ▸ hcounted.methods
      ticks := hpushed ▸ hcounted.ticks
      compiled := (hends.sum_summaryOf _).symm.trans hcompiled
      forced := (hends.sum_summaryOf _).symm.trans (Nat.eq_sub_of_add_eq' hsum)
      installs := hcounted.installs
      notifications := hends.notifications }

/-- The workers keep their names. -/
lemma Options.Ends.named (hends : o.Ends bound c h Q l) (w : Nat) :
    ((reported h Q).workers w).name = "jit-compiler-" ++ toString w := by
  have hid : (Q.shared.workers w).id = w := by
    refine hends.run.invariant (I := fun _ R => (R.shared.workers w).id = w) ?_ ?_ ?_
    · rw [Options.system_shared]
      rfl
    · intro g R e R' _ hR hstep
      exact (keeps_workerId w e.action _ _ _ _ hstep.effect).trans hR
    · intro g R R' _ hR hlook
      obtain ⟨holder, hshared⟩ := hlook.shared
      rw [hshared]
      exact hR
  exact congrArg (fun n => "jit-compiler-" ++ toString n) hid

end Totals

/-- If the totals are those that are due, then the report shows them. -/
lemma Totals.reportLines_eq {c : Config} {n : Nat} {s : Shared} {l : List Summary}
    (h : Totals c n s l) (hnamed : ∀ w, (s.workers w).name = "jit-compiler-" ++ toString w) :
    reportLines s l = dueReport c n s l := by
  have hmethods : s.service.counters.methodsCompiled.toNat = compiledShare c n % 2 ^ 64 := by
    rw [h.methods, UInt64.toNat_ofNat']
  have hticks : s.service.counters.ticks.toNat = (seedCount c + n) % 2 ^ 64 := by
    rw [h.ticks, UInt64.toNat_ofNat']
  have hinstalls : s.service.counters.jit.installs.toNat = compiledShare c n % 2 ^ 64 := by
    rw [h.installs, hmethods]
  have hnotifications : s.runtime.notifications.toNat =
      if c.executionMode = .interpreted then 0 else 1 := by
    rw [h.notifications]
    split_ifs <;> rfl
  simp only [reportLines, dueReport, timerLines, InstallCounters.line, hmethods, hticks, hinstalls,
    hnotifications, hnamed]
  rfl

/-- Two reports show the same totals. -/
structure SameTotals (s s' : Shared) (l l' : List Summary) : Prop where
  methods : s.service.counters.methodsCompiled = s'.service.counters.methodsCompiled
  ticks : s.service.counters.ticks = s'.service.counters.ticks
  compiled : (l.map (·.compiled)).sum = (l'.map (·.compiled)).sum
  forced : (l.map (·.forcedSimple)).sum = (l'.map (·.forcedSimple)).sum
  installs : s.service.counters.jit.installs = s'.service.counters.jit.installs
  notifications : s.runtime.notifications = s'.runtime.notifications

lemma Totals.same {c : Config} {n : Nat} {s s' : Shared} {l l' : List Summary}
    (h : Totals c n s l) (h' : Totals c n s' l') : SameTotals s s' l l' where
  methods := h.methods.trans h'.methods.symm
  ticks := h.ticks.trans h'.ticks.symm
  compiled := h.compiled.trans h'.compiled.symm
  forced := h.forced.trans h'.forced.symm
  installs := by rw [h.installs, h'.installs, h.methods, h'.methods]
  notifications := h.notifications.trans h'.notifications.symm

section Reports

variable {o : Options} {c : Config} {s : Shared} {l : List Summary}

lemma Options.Reports.totals (hreports : o.Reports c s l) : Totals c o.appMethods.toNat s l := by
  obtain ⟨bound, h, Q, hends, hs⟩ := hreports
  exact hs ▸ hends.totals

lemma Options.Reports.reportLines_eq (hreports : o.Reports c s l) :
    reportLines s l = dueReport c o.appMethods.toNat s l := by
  obtain ⟨bound, h, Q, hends, rfl⟩ := hreports
  exact hends.totals.reportLines_eq hends.named

end Reports

/-- **The totals of a simulated run do not depend on the schedule.** Whatever the order of the main
thread and the workers, however many workers there are and however long a compilation takes: a run
that ends well prints a report with the totals that its configuration and the number of application
methods say, and its workers have compiled and left to the simple tier as many tasks as these say.
So another run with this configuration and as many application methods reports the same totals. And
what a run writes that ends well ends with such a report. -/
theorem report_totals (o : Options) :
    (∀ c s l, o.Reports c s l →
      Totals c o.appMethods.toNat s l ∧
        printReport s l {} =
          ({ received := (dueReport c o.appMethods.toNat s l).flatMap utf8Bytes }, .ok ()) ∧
        ∀ (o' : Options) s' l', o'.appMethods = o.appMethods → o'.Reports c s' l' →
          SameTotals s s' l l') ∧
      ∀ read output k, o.simulate read output = some (.ok (), k) →
        ∃ c s l, o.compilerConfig read = .ok c ∧ o.Reports c s l ∧
          (dueReport c o.appMethods.toNat s l).flatMap utf8Bytes <:+ k.received := by
  refine ⟨fun c s l hreports => ⟨hreports.totals, ?_, fun o' s' l' hmethods hreports' => ?_⟩,
    fun read output k hrun => ?_⟩
  · rw [delivers_printReport, hreports.reportLines_eq]
    exact Sink.deliver_unlimited rfl
  · have htotals' := hreports'.totals
    rw [hmethods] at htotals'
    exact hreports.totals.same htotals'
  · obtain ⟨c, s, l, k₀, hconfig, hreports, hwrite⟩ := reports_of_simulate hrun
    refine ⟨c, s, l, hconfig, hreports, k₀.received, ?_⟩
    have hdeliver : k₀.deliver ((reportLines s l).flatMap utf8Bytes) = (k, .ok ()) :=
      (delivers_writeAll _ k₀).symm.trans hwrite
    have hreceived := Sink.deliver_of_ok (congrArg Prod.snd hdeliver)
    rw [hdeliver, hreports.reportLines_eq] at hreceived
    exact (congrArg Sink.received hreceived).symm

/-! ### A small run -/

/-- A run with two application methods. -/
def smallRun (workers : UInt64) : Options where
  workers := workers
  appMethods := 2
  compileMillis := 1

/-- Where the threads of a small run end. -/
def smallEnd (workers : UInt64) : List (Thread ThreadResult) × World :=
  World.schedule (smallRun workers).turnBound
    (Options.started {} ((smallRun workers).startWorld {}))
    (runThreads (smallRun workers).turnBound (smallRun workers) {})

/-- A small run ends well if its threads bring summaries. -/
lemma simulate_smallRun (workers : UInt64)
    (hends : ((smallEnd workers).1.mapM Thread.result?).any (summaries · |>.isOk) = true)
    (hlimit : (smallEnd workers).2.output.limit = none) :
    ∃ k, (smallRun workers).simulate (fun _ => .error .notFound) {} = some (.ok (), k) := by
  generalize hts : (smallEnd workers).1 = ts at hends
  generalize hw : (smallEnd workers).2 = w at hlimit
  cases hresults : ts.mapM Thread.result? with
  | none =>
      rw [hresults] at hends
      cases hends
  | some results =>
      rw [hresults] at hends
      cases hsummaries : summaries results with
      | error e =>
          rw [Option.any_some, hsummaries] at hends
          cases hends
      | ok l => exact exists_simulate rfl (Prod.ext hts hw) hresults hsummaries hlimit

/-- With one worker and with two, the seeds and the first method are compiled, and the other method
is left to the simple tier; both runs print this. -/
theorem report_totals_smallRun :
    ∃ k s l k' s' l',
      (smallRun 1).simulate (fun _ => .error .notFound) {} = some (.ok (), k) ∧
      (smallRun 2).simulate (fun _ => .error .notFound) {} = some (.ok (), k') ∧
      (smallRun 1).Reports {} s l ∧ (smallRun 2).Reports {} s' l' ∧
      Totals {} 2 s l ∧ Totals {} 2 s' l' ∧ SameTotals s s' l l' ∧
      s.service.counters.methodsCompiled = 5 ∧ s.service.counters.ticks = 6 ∧
      s.runtime.notifications = 1 ∧
      (dueReport {} 2 s l).flatMap utf8Bytes <:+ k.received ∧
      (dueReport {} 2 s' l').flatMap utf8Bytes <:+ k'.received ∧
      utf8Bytes "    methods compiled: 5, compilation ticks: 6\n" <:+ k.received ∧
      utf8Bytes "    methods compiled: 5, compilation ticks: 6\n" <:+ k'.received := by
  have hline : ∀ s l, utf8Bytes "    methods compiled: 5, compilation ticks: 6\n" <:+
      (dueReport {} 2 s l).flatMap utf8Bytes := by
    intro s l
    rw [dueReport, List.flatMap_append]
    exact List.suffix_append _ _
  obtain ⟨k, hrun⟩ := simulate_smallRun 1 (by decide +kernel) (by decide +kernel)
  obtain ⟨k', hrun'⟩ := simulate_smallRun 2 (by decide +kernel) (by decide +kernel)
  obtain ⟨htotals, hsimulated⟩ := report_totals (smallRun 1)
  obtain ⟨htotals', hsimulated'⟩ := report_totals (smallRun 2)
  obtain ⟨c, s, l, hconfig, hreports, hprinted⟩ := hsimulated _ _ k hrun
  obtain ⟨c', s', l', hconfig', hreports', hprinted'⟩ := hsimulated' _ _ k' hrun'
  obtain rfl : c = {} := (Except.ok.inj hconfig).symm
  obtain rfl : c' = {} := (Except.ok.inj hconfig').symm
  obtain ⟨hs, -, hsame⟩ := htotals _ s l hreports
  have hs' := (htotals' _ s' l' hreports').1
  have hsame' := hsame (smallRun 2) s' l' rfl hreports'
  exact ⟨k, s, l, k', s', l', hrun, hrun', hreports, hreports', hs, hs', hsame', hs.methods,
    hs.ticks, hs.notifications, hprinted, hprinted', (hline s l).trans hprinted,
    (hline s' l').trans hprinted'⟩

end ExternalCompiler
