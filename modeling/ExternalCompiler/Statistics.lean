/-
The counters of the compiler service and their reports:

* `Counter`: the names of the counters, `Counters` their values, each a word that wraps around;
* `installed`, `methodCompiled`, `ticked`, `timed`: the recorded events as additions to counters;
* `InstallSnapshot.text`: one line about the installs of one origin;
* `InstallCounters.printOn`, `Counters.printTimers`: such a line, and the report on compile and
  install times, on their way to a sink.
-/
import ExternalCompiler.Duration
import ExternalCompiler.Sink

namespace ExternalCompiler

/-! ### Counters -/

/-- Where installed code comes from: compilations for the application, or the hosted compiler's
own runtime. -/
inductive Origin
  | jit
  | hosted
deriving DecidableEq

/-- The names of the counters. -/
inductive Counter
  | methodsCompiled
  | ticks
  | compileTime
  | installs (o : Origin)
  | blobBytes (o : Origin)
  | codeBytes (o : Origin)
  | installTime (o : Origin)
deriving DecidableEq

/-- The counters of the installs of one origin; the time is in nanoseconds. -/
structure InstallCounters where
  installs : UInt64 := 0
  blobBytes : UInt64 := 0
  codeBytes : UInt64 := 0
  time : UInt64 := 0
deriving DecidableEq

/-- The values of all counters; times are in nanoseconds. -/
structure Counters where
  methodsCompiled : UInt64 := 0
  ticks : UInt64 := 0
  compileTime : UInt64 := 0
  jit : InstallCounters := {}
  hosted : InstallCounters := {}
deriving DecidableEq

namespace Counters

/-- The counters of one origin. -/
def ofOrigin (c : Counters) : Origin → InstallCounters
  | .jit => c.jit
  | .hosted => c.hosted

/-- The value of a counter. -/
def get (c : Counters) : Counter → UInt64
  | .methodsCompiled => c.methodsCompiled
  | .ticks => c.ticks
  | .compileTime => c.compileTime
  | .installs o => (c.ofOrigin o).installs
  | .blobBytes o => (c.ofOrigin o).blobBytes
  | .codeBytes o => (c.ofOrigin o).codeBytes
  | .installTime o => (c.ofOrigin o).time

/-- Changes the counters of one origin. -/
def onOrigin (c : Counters) (o : Origin) (f : InstallCounters → InstallCounters) : Counters :=
  match o with
  | .jit => { c with jit := f c.jit }
  | .hosted => { c with hosted := f c.hosted }

/-- Adds to one counter, modulo `2 ^ 64`. -/
def add (c : Counters) (k : Counter) (n : UInt64) : Counters :=
  match k with
  | .methodsCompiled => { c with methodsCompiled := c.methodsCompiled + n }
  | .ticks => { c with ticks := c.ticks + n }
  | .compileTime => { c with compileTime := c.compileTime + n }
  | .installs o => c.onOrigin o fun i => { i with installs := i.installs + n }
  | .blobBytes o => c.onOrigin o fun i => { i with blobBytes := i.blobBytes + n }
  | .codeBytes o => c.onOrigin o fun i => { i with codeBytes := i.codeBytes + n }
  | .installTime o => c.onOrigin o fun i => { i with time := i.time + n }

end Counters

/-! ### Events -/

/-- An addition to one counter. -/
abbrev Addition := Counter × UInt64

/-- The installation of one code blob. -/
def installed (o : Origin) (blob code : UInt64) : List Addition :=
  [(.installs o, 1), (.blobBytes o, blob), (.codeBytes o, code)]

/-- A finished compilation, which also ticks. -/
def methodCompiled : List Addition :=
  [(.methodsCompiled, 1), (.ticks, 1)]

/-- A compilation that only ticks. -/
def ticked : List Addition :=
  [(.ticks, 1)]

/-- A timed region. -/
def timed (timer : Counter) (d : Duration) : List Addition :=
  [(timer, d.saturatedNanos)]

/-- All additions of a list, one after the other. -/
def Counters.addAll (c : Counters) (l : List Addition) : Counters :=
  l.foldl (fun c a => c.add a.1 a.2) c

/-! ### Reports -/

/-- The installs of one origin at one moment. -/
structure InstallSnapshot where
  installs : UInt64 := 0
  blobBytes : UInt64 := 0
  codeBytes : UInt64 := 0
  elapsed : Duration := ⟨0, 0⟩
deriving DecidableEq

/-- The pieces of a line about the installs of an origin, without its end. -/
def InstallSnapshot.pieces (s : InstallSnapshot) : List String :=
  [ s.elapsed.secondsText, " s (installs: ", toString s.installs.toNat, ", CodeBlob total size: ",
    toString s.blobBytes.toNat, ", CodeBlob code size: ", toString s.codeBytes.toNat, ")" ]

/-- One line about the installs of an origin, without its end. -/
def InstallSnapshot.text (s : InstallSnapshot) : String :=
  String.join s.pieces

/-- The counters of one origin as a snapshot. -/
def InstallCounters.snapshot (i : InstallCounters) : InstallSnapshot where
  installs := i.installs
  blobBytes := i.blobBytes
  codeBytes := i.codeBytes
  elapsed := .ofNanos i.time.toNat

/-- The line about the installs of an origin, behind a label. -/
def InstallCounters.line (label : String) (i : InstallCounters) : String :=
  label ++ (Duration.ofNanos i.time.toNat).secondsText ++ " s (installs: "
    ++ toString i.installs.toNat ++ ", CodeBlob total size: " ++ toString i.blobBytes.toNat
    ++ ", CodeBlob code size: " ++ toString i.codeBytes.toNat ++ ")\n"

/-- Writes this line, piece by piece. -/
def InstallCounters.printOn (i : InstallCounters) (label : String) : Writing :=
  fun k => k.writeAll (label :: i.snapshot.pieces ++ ["\n"])

/-- Writes the report on compile and install times. -/
def Counters.printTimers (c : Counters) : Writing :=
  .inTurn
    [ (·.writeAll ["    External Compiler CompileBroker Time:\n"]),
      (·.writeAll
        ["       Compile:        ", (Duration.ofNanos c.compileTime.toNat).secondsText, " s\n"]),
      c.jit.printOn "       Install Code:   ",
      (·.writeAll ["\n"]),
      (·.writeAll ["    External Compiler Hosted Time:\n"]),
      c.hosted.printOn "       Install Code:   " ]

end ExternalCompiler
