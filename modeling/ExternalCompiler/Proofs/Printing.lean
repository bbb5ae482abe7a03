/-
What is printed, spelled out:

* `delivers_printOn`: the line about the installs of an origin is written;
* `timerLines`: the report on compile and install times; `delivers_printTimers`: this is what is
  written;
* `reportLines`: the report at the end of a simulated run; `delivers_printReport`,
  `printReport_eq_writeAll`: this is what is written.
-/
import ExternalCompiler.Simulation.Run
import ExternalCompiler.Proofs.Output

namespace ExternalCompiler

/-! ### Installs and timers -/

/-- The report on compile and install times, line by line. -/
def timerLines (c : Counters) : List String :=
  [ "    External Compiler CompileBroker Time:\n",
    "       Compile:        " ++ (Duration.ofNanos c.compileTime.toNat).secondsText ++ " s\n",
    c.jit.line "       Install Code:   ",
    "\n",
    "    External Compiler Hosted Time:\n",
    c.hosted.line "       Install Code:   " ]

lemma delivers_printOn (i : InstallCounters) (label : String) :
    (i.printOn label).Delivers (utf8Bytes (i.line label)) := by
  have hend : utf8Bytes ")\n" = utf8Bytes ")" ++ utf8Bytes "\n" := by decide
  refine (delivers_writeAll (label :: i.snapshot.pieces ++ ["\n"])).congr ?_
  simp [InstallCounters.line, InstallCounters.snapshot, InstallSnapshot.pieces, utf8Bytes_append,
    hend]

lemma delivers_printTimers (c : Counters) :
    c.printTimers.Delivers ((timerLines c).flatMap utf8Bytes) := by
  have hjit := delivers_printOn c.jit "       Install Code:   "
  have hhosted := delivers_printOn c.hosted "       Install Code:   "
  refine Writing.Delivers.congr ((delivers_writeAll _).cons <| (delivers_writeAll _).cons <|
    hjit.cons <| (delivers_writeAll _).cons <| (delivers_writeAll _).cons <| hhosted.cons
      delivers_nothing) ?_
  simp [timerLines, utf8Bytes_append]

/-! ### The report of a run -/

/-- The report on the state `s` and the summaries of the workers, line by line. -/
def reportLines (s : Shared) (summaries : List Summary) : List String :=
  timerLines s.service.counters ++
  [ "\n",
    "    External Runtime:\n",
    "       attaches: " ++ toString s.runtime.attaches.toNat
      ++ ", detaches: " ++ toString s.runtime.detaches.toNat
      ++ ", repacks: " ++ toString s.runtime.repacks.toNat
      ++ ", bootstrap notifications: " ++ toString s.runtime.notifications.toNat ++ "\n" ] ++
  summaries.zipIdx.map (fun (x, i) =>
    "       " ++ (s.workers i).name ++ ": compiled " ++ toString x.compiled
      ++ ", simple tier " ++ toString x.forcedSimple
      ++ ", idle detaches " ++ toString x.idleDetaches
      ++ ", idle repacks " ++ toString x.idleRepacks ++ "\n") ++
  [ "    methods compiled: " ++ toString s.service.counters.methodsCompiled.toNat
      ++ ", compilation ticks: " ++ toString s.service.counters.ticks.toNat ++ "\n" ]

lemma delivers_printReport (s : Shared) (summaries : List Summary) :
    (printReport s summaries).Delivers ((reportLines s summaries).flatMap utf8Bytes) := by
  rw [printReport]
  refine Writing.Delivers.congr ((delivers_printTimers s.service.counters).cons <|
    (delivers_writeAll _).cons <| (delivers_writeAll _).cons <|
      (delivers_writeAll _).cons delivers_nothing) ?_
  simp only [reportLines, List.flatMap_append, List.append_assoc, List.append_nil]
  rfl

/-- The report is written like its lines. -/
lemma printReport_eq_writeAll (s : Shared) (summaries : List Summary) (k : Sink) :
    printReport s summaries k = k.writeAll (reportLines s summaries) :=
  (delivers_printReport s summaries k).trans (delivers_writeAll _ k).symm

end ExternalCompiler
