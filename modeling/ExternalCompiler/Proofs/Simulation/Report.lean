/-
What a simulated run reports:

* `Options.Ends`: the threads of a run, in some order, come to their end without an error;
* `reported`, `Options.Reports`: what may be reported then;
* `reports_of_simulate`: a simulated run that ends well writes such a report.
-/
import ExternalCompiler.Proofs.Printing
import ExternalCompiler.Proofs.Simulation.Schedule
import ExternalCompiler.Proofs.Simulation.Threads

namespace ExternalCompiler

/-! ### Runs that end well -/

/-- In some order, with the history `h`, the main thread of a run and its workers come to their end
without an error; the workers stop with the summaries `l`. -/
structure Options.Ends (bound : Nat) (o : Options) (c : Config) (h : List Event) (Q : System)
    (l : List Summary) : Prop where
  run : System.Run (o.system bound c) h Q
  simulated : ∀ e ∈ h, e.action.Simulated e.answer
  main : (o.system bound c).Returns 1 (Routine.driveAndClose bound o c) h (.ok ())
  workers : List.Forall₂ (fun w s => (o.system bound c).Returns (w + 2)
    (Routine.work bound c w o.compileMillis.toNat) h (.ok s)) (List.range o.workers.toNat) l

/-- What the threads leave to the report: the service is shut down, and the runtime has counted its
calls. -/
def reported (h : List Event) (Q : System) : Shared :=
  (Access.perform 1 (Q.shared.withRuntime (RuntimeCalls.after {} h)) (.storeState .shutDown)).2

/-- In some order of the threads, however long they take, the state `s` and the summaries `l` are
what is reported. -/
def Options.Reports (o : Options) (c : Config) (s : Shared) (l : List Summary) : Prop :=
  ∃ bound h Q, o.Ends bound c h Q l ∧ s = reported h Q

/-! ### What the threads bring -/

section Bring

variable {bound : Nat} {o : Options} {c : Config} {h : List Event} {es : List Event}

lemma leads_workerThread {w : Nat} {y : ThreadResult}
    (hes : (workerThread bound o c w).rest.Leads es (.done y)) :
    ∃ x, y = .worked x ∧
      (Routine.work bound c w o.compileMillis.toNat).Leads es (.done x) := by
  obtain ⟨es₁, es₂, x, rfl, hwork, hend⟩ := Routine.leads_bind_done.mp hes
  obtain ⟨rfl, hy⟩ := Routine.leads_done.mp hend
  refine ⟨x, Routine.done.inj hy, ?_⟩
  rw [List.append_nil]
  exact hwork

lemma leads_mainThread {y : ThreadResult}
    (hes : (mainThread bound o c).rest.Leads es (.done y)) :
    ∃ x, y = .drove x ∧ (Routine.driveAndClose bound o c).Leads es (.done x) := by
  obtain ⟨es₁, es₂, x, rfl, hdrive, hend⟩ := Routine.leads_bind_done.mp hes
  obtain ⟨rfl, hy⟩ := Routine.leads_done.mp hend
  refine ⟨x, Routine.done.inj hy, ?_⟩
  rw [List.append_nil]
  exact hdrive

/-- Where there are summaries, the workers brought them and the main thread no error. -/
lemma leads_of_summaries {workers : List Nat} {results : List ThreadResult} {l : List Summary}
    (hresults : List.Forall₂ (fun t x => t.rest.Leads (own t.me h) (.done x))
      (workers.map (workerThread bound o c) ++ [mainThread bound o c]) results)
    (hsummaries : summaries results = .ok l) :
    List.Forall₂ (fun w s => (Routine.work bound c w o.compileMillis.toNat).Leads
        (own (w + 2) h) (.done (.ok s))) workers l ∧
      (Routine.driveAndClose bound o c).Leads (own 1 h) (.done (.ok ())) := by
  induction workers generalizing results l with
  | nil =>
      obtain ⟨y, ys, hy, hys, rfl⟩ := List.forall₂_cons_left_iff.mp hresults
      obtain rfl := List.forall₂_nil_left_iff.mp hys
      obtain ⟨x, rfl, hmain⟩ := leads_mainThread hy
      cases x with
      | error e => cases hsummaries
      | ok _ =>
          cases hsummaries
          exact ⟨.nil, hmain⟩
  | cons w workers ih =>
      obtain ⟨y, ys, hy, hys, rfl⟩ := List.forall₂_cons_left_iff.mp hresults
      obtain ⟨x, rfl, hworker⟩ := leads_workerThread hy
      cases x with
      | error e => cases hsummaries
      | ok s =>
          rw [summaries] at hsummaries
          cases hothers : summaries ys with
          | error e =>
              rw [hothers] at hsummaries
              cases hsummaries
          | ok others =>
              rw [hothers] at hsummaries
              cases hsummaries
              obtain ⟨hworkers, hmain⟩ := ih hys hothers
              exact ⟨.cons hworker hworkers, hmain⟩

lemma nodup_runThreads (bound : Nat) (o : Options) (c : Config) :
    ((runThreads bound o c).map (·.me)).Nodup := by
  have hme : (runThreads bound o c).map (·.me) =
      (List.range o.workers.toNat).map (· + 2) ++ [1] := by
    rw [runThreads, List.map_append, List.map_map]
    rfl
  rw [hme]
  refine List.Nodup.append ?_ (List.nodup_singleton 1) ?_
  · exact List.nodup_range.map fun _ _ => Nat.add_right_cancel
  · simp

lemma rest_runThreads :
    ∀ t ∈ runThreads bound o c,
      (o.system bound c).threads t.me = t.rest.bind fun _ => .done () := by
  intro t ht
  rcases List.mem_append.mp ht with ht | ht
  · obtain ⟨w, hw, rfl⟩ := List.mem_map.mp ht
    have hcrew : w + 2 ∈ o.crew := Options.mem_crew.mpr (List.mem_range.mp hw)
    have hrest : (workerThread bound o c w).rest =
        (Routine.work bound c w o.compileMillis.toNat).bind fun x => .done (.worked x) := rfl
    rw [hrest, Routine.bind_assoc]
    exact Options.system_worker hcrew
  · obtain rfl := List.mem_singleton.mp ht
    have hrest : (mainThread bound o c).rest =
        (Routine.driveAndClose bound o c).bind fun x => .done (.drove x) := rfl
    rw [hrest, Routine.bind_assoc]
    exact Options.system_main

end Bring

/-! ### Simulated runs -/

variable {o : Options} {c : Config}

/-- The threads of a simulated run begin where those of the system do. -/
lemma shows_started (bound : Nat) (o : Options) (c : Config) (output : Sink) :
    Shows (o.system bound c) [] (o.system bound c) (Options.started c (o.startWorld output)) where
  run := .refl _
  simulated := List.forall_mem_nil _
  shared := by
    rw [Options.system_shared, Options.started_shared c rfl]
    rfl

/-- What the threads of a run bring makes it one that ends well. -/
lemma ends_of_leads {bound : Nat} {h : List Event} {Q : System} {l : List Summary}
    (hrun : System.Run (o.system bound c) h Q) (hsim : ∀ e ∈ h, e.action.Simulated e.answer)
    (hworkers : List.Forall₂ (fun w s => (Routine.work bound c w o.compileMillis.toNat).Leads
      (own (w + 2) h) (.done (.ok s))) (List.range o.workers.toNat) l)
    (hmain : (Routine.driveAndClose bound o c).Leads (own 1 h) (.done (.ok ()))) :
    o.Ends bound c h Q l where
  run := hrun
  simulated := hsim
  main := ⟨⟨_, Options.system_main⟩, hmain⟩
  workers := by
    have hcrew : ∀ w ∈ List.range o.workers.toNat, w + 2 ∈ o.crew :=
      fun w hw => Options.mem_crew.mpr (List.mem_range.mp hw)
    refine ((List.forall₂_and_left _ _).mpr ⟨hcrew, hworkers⟩).imp fun w s h => ?_
    exact ⟨⟨_, Options.system_worker h.1⟩, h.2⟩

/-- A report that is written without an error is in the output. -/
lemma writeAll_of_finish {w : World} {l : List Summary} {k : Sink}
    (hfinish : Options.finish w l = (.ok (), k)) :
    w.output.writeAll (reportLines (Access.perform 1 w.shared (.storeState .shutDown)).2 l) =
      (k, .ok ()) := by
  simp only [Options.finish, printReport_eq_writeAll] at hfinish
  generalize Sink.writeAll _ _ = written at hfinish ⊢
  obtain ⟨output, _ | _⟩ := written
  · cases hfinish
  · cases hfinish
    rfl

/-- A simulated run with a configuration that ends well writes what some order of the threads
reports. -/
lemma reports_of_simulateWith {output k : Sink}
    (hrun : o.simulateWith c output = some (.ok (), k)) :
    ∃ s l, ∃ k₀ : Sink, o.Reports c s l ∧ k₀.writeAll (reportLines s l) = (k, .ok ()) := by
  simp only [Options.simulateWith, Option.bind_eq_bind, Option.bind_eq_some_iff] at hrun
  obtain ⟨results, hresults, hrest⟩ := hrun
  obtain ⟨es, Q, hw, -, hleads⟩ := (shows_started o.turnBound o c output).results
    (nodup_runThreads _ o c) rest_runThreads hresults
  generalize (World.schedule o.turnBound (Options.started c (o.startWorld output))
    (runThreads o.turnBound o c)).2 = w at hw hrest
  rw [List.nil_append] at hw
  cases hsummaries : summaries results with
  | error e =>
      rw [hsummaries] at hrest
      cases hrest
  | ok l =>
      rw [hsummaries] at hrest
      obtain ⟨hworkers, hmain⟩ := leads_of_summaries hleads hsummaries
      have hshared : w.shared = Q.shared.withRuntime (RuntimeCalls.after {} es) := by
        rw [hw.shared, Options.system_shared]
        rfl
      refine ⟨reported es Q, l, w.output, ⟨o.turnBound, es, Q, ?_, rfl⟩, ?_⟩
      · exact ends_of_leads hw.run hw.simulated hworkers hmain
      · rw [reported, ← hshared]
        exact writeAll_of_finish (Option.some.inj hrest)

/-- **A simulated run that ends well reports what some order of its threads does.** -/
theorem reports_of_simulate {read : String → Config.FileContent} {output k : Sink}
    (hrun : o.simulate read output = some (.ok (), k)) :
    ∃ c s l, ∃ k₀ : Sink, o.compilerConfig read = .ok c ∧ o.Reports c s l ∧
      k₀.writeAll (reportLines s l) = (k, .ok ()) := by
  rw [Options.simulate] at hrun
  cases hconfig : o.compilerConfig read with
  | error e =>
      rw [hconfig] at hrun
      cases hrun
  | ok c =>
      rw [hconfig] at hrun
      obtain ⟨s, l, k₀, hreports, hwrite⟩ := reports_of_simulateWith hrun
      exact ⟨c, s, l, k₀, rfl, hreports, hwrite⟩

/-! ### Runs that end -/

/-- A sink without a limit takes everything. -/
lemma writeAll_of_unlimited {k : Sink} (hk : k.limit = none) (texts : List String) :
    (k.writeAll texts).2 = .ok () := by
  have hwritten : k.writeAll texts = k.deliver (texts.flatMap utf8Bytes) :=
    delivers_writeAll texts k
  rw [hwritten, Sink.deliver_unlimited hk]

/-- If the threads bring summaries and the output takes everything, then the run ends well. -/
lemma exists_simulate {read : String → Config.FileContent} {output : Sink}
    {results : List ThreadResult} {l : List Summary} {w : World} {ts : List (Thread ThreadResult)}
    (hconfig : o.compilerConfig read = .ok c)
    (hschedule : World.schedule o.turnBound (Options.started c (o.startWorld output))
      (runThreads o.turnBound o c) = (ts, w))
    (hresults : ts.mapM Thread.result? = some results) (hsummaries : summaries results = .ok l)
    (hlimit : w.output.limit = none) : ∃ k, o.simulate read output = some (.ok (), k) := by
  have hwritten := writeAll_of_unlimited hlimit
    (reportLines (Access.perform 1 w.shared (.storeState .shutDown)).2 l)
  refine ⟨(w.output.writeAll
    (reportLines (Access.perform 1 w.shared (.storeState .shutDown)).2 l)).1, ?_⟩
  simp only [Options.simulate, hconfig, Options.simulateWith, hschedule, Option.bind_eq_bind,
    hresults, Option.bind_some, hsummaries, Options.finish, printReport_eq_writeAll, hwritten]
  rfl

end ExternalCompiler
