/-
What a simulated runtime has to compile:

* `rootClass`: the methods of the root class, which a bootstrap seeds;
* `workload`: the methods of an application, every other one in the compiler's own module;
* `Routine.submitWorkload`: submits them to a broker.
-/
import ExternalCompiler.Bootstrap

namespace ExternalCompiler

/-- The module of the external compiler's own code. -/
def compilerModule : ModuleId := ⟨"jdk.internal.vm.compiler"⟩

/-- The module of the simulated application. -/
def applicationModule : ModuleId := ⟨"app"⟩

/-- The module of the root class. -/
def baseModule : ModuleId := ⟨"java.base"⟩

/-- The handle of the simulated external runtime, which is always live. -/
def simulatedHandle : UInt64 := 1

/-- The modules that the simulated external runtime keeps for itself. -/
def simulatedExclusions : List ModuleId := [compilerModule]

/-- A method of the root class. -/
def rootMethod (name : String) (kind : MethodKind) (isNative isStatic : Bool) : Method where
  holder := "Object"
  name := name
  module := baseModule
  kind := kind
  isNative := isNative
  isStatic := isStatic

/-- The methods of the root class. -/
def rootClass : List Method :=
  [ rootMethod "<init>" .objectInitializer false false,
    rootMethod "<clinit>" .classInitializer false true,
    rootMethod "registerNatives" .regular true true,
    rootMethod "getClass" .regular true false,
    rootMethod "hashCode" .regular true false,
    rootMethod "equals" .regular false false,
    rootMethod "clone" .regular true false,
    rootMethod "toString" .regular false false,
    rootMethod "notify" .regular true false,
    rootMethod "notifyAll" .regular true false,
    rootMethod "wait" .regular false false,
    rootMethod "finalize" .regular false false ]

/-- The method of a workload at an index. -/
def workloadMethod (i : Nat) : Method where
  holder := if i % 2 = 0 then "Main" else "GraphBuilder"
  name := "m" ++ toString i
  module := if i % 2 = 0 then applicationModule else compilerModule

/-- The task of a workload at an index. -/
def workloadTask (i : Nat) : CompileTask where
  method := workloadMethod i
  tier := .top
  hotCount := 1
  reason := .tiered

/-- The tasks of a workload. -/
def workload (n : Nat) : List CompileTask :=
  (List.range n).map workloadTask

/-- Submits a workload; the answer is the number of tasks that were accepted. -/
def Routine.submitWorkload (broker : Broker) (n : Nat) : Routine Nat :=
  submitAll broker (workload n) 0

end ExternalCompiler
