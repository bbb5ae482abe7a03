/-
Methods of the managed runtime, as far as the compiler service looks at them:

* `ModuleId`: a module is its name; `ModuleId.distinct` lists modules in the order of their names;
* `Method`: a method with the attributes that decide whether compiled code can be made for it;
* `Method.isBootstrapCandidate`: the methods that a bootstrap seeds into the queue.
-/

namespace ExternalCompiler

/-! ### Modules -/

/-- The identity of a module: two modules are the same exactly when their names are. -/
structure ModuleId where
  name : String
deriving DecidableEq

namespace ModuleId

/-- The list with `m` put at its place in the order of names, unless it is there already. -/
def place (m : ModuleId) : List ModuleId → List ModuleId
  | [] => [m]
  | n :: rest =>
    if m = n then n :: rest
    else if m.name < n.name then m :: n :: rest
    else n :: place m rest

/-- The different modules of a list, in the order of their names. -/
def distinct (ms : List ModuleId) : List ModuleId :=
  ms.foldr place []

end ModuleId

/-! ### Methods -/

/-- Whether a method is an ordinary one or an initializer. -/
inductive MethodKind
  | regular
  | objectInitializer
  | classInitializer
deriving DecidableEq

/-- A method of the managed runtime. -/
structure Method where
  holder : String
  name : String
  module : ModuleId
  kind : MethodKind := .regular
  isNative : Bool := false
  isStatic : Bool := false
deriving DecidableEq

namespace Method

/-- The method as it is shown to people: the holder, a dot and the name. -/
def text (m : Method) : String :=
  m.holder ++ "." ++ m.name

/-- Constructors and class initializers. -/
def isInitializer (m : Method) : Bool :=
  m.kind != .regular

/-- Compiled code is only made for instance methods that are neither native nor initializers. -/
def isBootstrapCandidate (m : Method) : Bool :=
  !m.isNative && !m.isStatic && !m.isInitializer

/-- The index pairs `i < j` at which a list holds the same method twice. -/
def samePairs (ms : List Method) : List (Nat × Nat) :=
  ms.zipIdx.flatMap fun (m, i) =>
    (ms.zipIdx.filter fun (n, j) => decide (i < j) && m == n).map fun (_, j) => (i, j)

end Method

end ExternalCompiler
