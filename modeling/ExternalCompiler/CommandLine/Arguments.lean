/-
Reading the arguments of a command line:

* `Word.ofArgument`: what an argument looks like;
* `Scan.next`: the effect of one argument; the value of an option that stands in an argument of
  its own is read only when the next option comes or the arguments end;
* `Options.ofArguments`: the options of a run, from its arguments and its environment.
-/
import ExternalCompiler.CommandLine.Options

namespace ExternalCompiler

/-! ### Words -/

/-- What an argument looks like: two dashes alone, a name behind two dashes with a value that may
follow an equals sign, letters behind one dash, or anything else. -/
inductive Word
  | escape
  | long (name : String) (value : Option String)
  | short (letters : List Char)
  | plain
deriving DecidableEq

/-- A name and the value behind the first equals sign. -/
def nameAndValue (text : List Char) : String × Option String :=
  match text.dropWhile (· != '=') with
  | [] => (String.ofList text, none)
  | _ :: value => (String.ofList (text.takeWhile (· != '=')), some (String.ofList value))

/-- What an argument looks like. -/
def Word.ofArgument (text : String) : Word :=
  match text.toList with
  | ['-', '-'] => .escape
  | '-' :: '-' :: rest =>
    let (name, value) := nameAndValue rest
    .long name value
  | '-' :: c :: rest => .short (c :: rest)
  | _ => .plain

/-- Whether letters behind a dash look like a number: digits, at most one point behind the first
of them and before an exponent, and an exponent that is neither the first nor the last letter. -/
def looksLikeNumber (letters : List Char) : Bool :=
  let isExponent (c : Char) := c == 'e' || c == 'E'
  let mantissa := letters.takeWhile fun c => !isExponent c
  let rest := letters.dropWhile fun c => !isExponent c
  let goodMantissa := mantissa.all (fun c => c.isDigit || c == '.')
    && mantissa.count '.' ≤ 1 && mantissa.head? != some '.'
  match rest with
  | [] => goodMantissa
  | _ :: digits => goodMantissa && !mantissa.isEmpty && !digits.isEmpty && digits.all Char.isDigit

/-- An option by its name. -/
inductive KnownOption
  | valued (o : ValueOption)
  | switch (s : Switch)
  | help
deriving DecidableEq

/-- The option with a name. -/
def KnownOption.ofName? (name : String) : Option KnownOption :=
  if name = "help" then some .help
  else
    match ValueOption.all.find? (·.name == name) with
    | some o => some (.valued o)
    | none => (Switch.all.find? (·.name == name)).map .switch

/-! ### Scanning -/

/-- How far the arguments were read: what was given, the option whose value is not read yet (with
the value, if it came), and whether two dashes ended the options. -/
structure Scan where
  given : Given := {}
  pending : Option (ValueOption × Option String) := none
  isEscaped : Bool := false

namespace Scan

/-- The option that awaits its value. -/
def awaiting (s : Scan) : Option ValueOption :=
  match s.pending with
  | some (o, none) => some o
  | _ => none

/-- Reads the value that is still to be read. -/
def settle (s : Scan) : Except UsageError Given :=
  match s.pending with
  | none => .ok s.given
  | some (_, none) => .error .invalidValue
  | some (o, some text) => s.given.put o text

/-- Takes an argument as a value. -/
def takeValue (s : Scan) (text : String) : Except UsageError Scan :=
  match s.awaiting with
  | some o => .ok { s with pending := some (o, some text) }
  | none => .error .unknownArgument

/-- An option by its name, with the value that is attached to it. -/
def long (s : Scan) (name : String) (value : Option String) : Except UsageError Scan :=
  match KnownOption.ofName? name, value with
  | none, _ => .error .unknownArgument
  | some .help, none => do
    let _ ← s.settle
    .error .displayHelp
  | some (.switch w), none => do
    let g ← s.settle
    let g ← g.turnOn w
    .ok { s with given := g, pending := none }
  | some (.valued o), none => do
    let g ← s.settle
    .ok { s with given := g, pending := some (o, none) }
  | some (.valued o), some text => do
    let g ← s.settle
    let g ← g.put o text
    .ok { s with given := g, pending := none }
  | some _, some _ => .error .tooManyValues

/-- Letters behind one dash: a negative number for an option that takes one, a request for help,
or nothing that is known. -/
def short (s : Scan) (text : String) (letters : List Char) : Except UsageError Scan :=
  if (s.awaiting.any (·.takesNegative)) && looksLikeNumber letters then s.takeValue text
  else if letters.head? = some 'h' then do
    let _ ← s.settle
    .error .displayHelp
  else .error .unknownArgument

/-- The effect of one argument. -/
def next (s : Scan) (text : String) : Except UsageError Scan :=
  if s.isEscaped then .error .unknownArgument
  else
    match Word.ofArgument text with
    | .escape => .ok { s with isEscaped := true }
    | .long name value => s.long name value
    | .short letters => s.short text letters
    | .plain => s.takeValue text

end Scan

/-! ### The environment -/

/-- An environment: the values of its variables. -/
abbrev Environment := List (String × String)

/-- The options that an environment variable can give, in the order in which they are looked
up. -/
def environmentOptions : List (String × KnownOption) :=
  [ ("JIT_BOOTSTRAP_CONFIG", .valued .config),
    ("JIT_BOOTSTRAP_WORKERS", .valued .workers),
    ("JIT_BOOTSTRAP_HOSTED", .switch .hosted),
    ("JIT_BOOTSTRAP_IDLE_DELAY", .valued .idleDelay),
    ("JIT_BOOTSTRAP_STARTUP_GRACE", .valued .startupGrace),
    ("JIT_BOOTSTRAP_LOG_LEVEL", .valued .logLevel) ]

/-- The text of a truth value. -/
def truthOf? (text : String) : Option Bool :=
  if text = "true" then some true else if text = "false" then some false else none

namespace Given

/-- Gives an option the value of its variable, unless it was given as an argument. -/
def ofVariable (g : Given) (o : KnownOption) (text : String) : Except UsageError Given :=
  match o with
  | .valued v => if g.has v then .ok g else g.store v text
  | .switch s =>
    if g.hasSwitch s then .ok g
    else
      match truthOf? text with
      | some b => .ok (g.storeSwitch s b)
      | none => .error .invalidValue
  | .help => .ok g

/-- Gives the options whose variables have values. -/
def ofEnvironment (env : Environment) (g : Given) : Except UsageError Given :=
  environmentOptions.foldlM (fun g (name, o) =>
    match env.lookup name with
    | none => .ok g
    | some text => g.ofVariable o text) g

end Given

/-- The options of a run. -/
def Options.ofArguments (arguments : List String) (env : Environment) :
    Except UsageError Options := do
  let s ← arguments.foldlM Scan.next {}
  let g ← s.settle
  let g ← g.ofEnvironment env
  .ok g.options

end ExternalCompiler
