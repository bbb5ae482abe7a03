/-
Reading configurations:

* `Config.setKey`: the effect of one key of a document;
* `Config.ofText`: a configuration from a text, with the defaults for what is missing;
* `Config.ofFile`: a configuration from what a file holds.
-/
import ExternalCompiler.Config.Error
import ExternalCompiler.Text.Quoted
import ExternalCompiler.Toml.Document

namespace ExternalCompiler

open Toml (Node)

/-- A value of a document as messages describe it. -/
def Toml.Node.describe : Node → String
  | .string text => "string " ++ quoted text
  | .integer value => "integer `" ++ toString value ++ "`"
  | .float value => "floating point `" ++ value.text ++ "`"
  | .boolean value => "boolean `" ++ (if value then "true" else "false") ++ "`"
  | .moment => "map"
  | .array _ => "sequence"
  | .table _ _ => "map"
  | .tables _ => "sequence"

/-- A truth value. -/
def booleanOf : Node → Except FormatError Bool
  | .boolean b => .ok b
  | node => .error (.wrongType node.describe .boolean)

/-- A signed integer. -/
def signedOf : Node → Except FormatError Int64
  | .integer n => .ok (Int64.ofInt n)
  | node => .error (.wrongType node.describe .signed)

/-- An integer that is not negative. -/
def unsignedOf : Node → Except FormatError UInt64
  | .integer n =>
    if 0 ≤ n then .ok (UInt64.ofNat n.toNat) else .error (.outOfRange n .unsigned)
  | node => .error (.wrongType node.describe .unsigned)

/-- The execution mode with a name. -/
def modeNamed (name : String) : Except FormatError ExecutionMode :=
  match ExecutionMode.ofName? name with
  | some mode => .ok mode
  | none => .error (.unknownMode name)

/-- Whether an array or a table is empty. -/
def isEmptyGroup : Node → Bool
  | .array items => items.isEmpty
  | .table _ entries => entries.isEmpty
  | .tables elements => elements.isEmpty
  | _ => false

/-- An execution mode: its name, or a table whose only key is the name and holds nothing. -/
def modeOf : Node → Except FormatError ExecutionMode
  | .string text => modeNamed text
  | .table _ [(name, held)] => do
    let mode ← modeNamed name
    if isEmptyGroup held then .ok mode else .error .notAMode
  | _ => .error .notAMode

namespace Config

/-- The effect of one key; keys that are not settings have none. -/
def setKey (c : Config) (key : String) (node : Node) : Except FormatError Config :=
  if key = "use_compiler" then
    (booleanOf node).map fun b => { c with useCompiler := b }
  else if key = "external_compiler_enabled" then
    (booleanOf node).map fun b => { c with externalCompilerEnabled := b }
  else if key = "use_external_compiler_as_default" then
    (booleanOf node).map fun b => { c with externalCompilerDefault := b }
  else if key = "use_native_library_compiler" then
    (booleanOf node).map fun b => { c with nativeLibrary := b }
  else if key = "execution_mode" then
    (modeOf node).map fun m => { c with executionMode := m }
  else if key = "idle_delay_millis" then
    (signedOf node).map fun n => { c with idleDelayMillis := n }
  else if key = "print_bootstrap_progress" then
    (booleanOf node).map fun b => { c with printProgress := b }
  else if key = "startup_grace_millis" then
    (unsignedOf node).map fun n => { c with startupGraceMillis := n }
  else .ok c

/-- The settings of a document; the first unsuitable value in its order is reported. -/
def ofEntries (entries : Toml.Entries) : Except FormatError Config :=
  entries.foldlM (fun c e => c.setKey e.1 e.2) {}

/-- The settings that a text gives, whether or not they can be started. -/
def parse (text : String) : Except FormatError Config :=
  match Toml.document text with
  | none => .error .malformed
  | some entries => ofEntries entries

/-- A configuration from a text. -/
def ofText (text : String) : Except ConfigError Config := do
  match parse text with
  | .error e => .error (.format e)
  | .ok c => do
    c.validate
    .ok c

/-- What a file holds, or why it could not be read. -/
abbrev FileContent := Except ReadFailure ByteArray

/-- A configuration from what a file holds. -/
def ofFile (path : String) (content : FileContent) : Except ConfigError Config :=
  match content with
  | .error e => .error (.read path e)
  | .ok bytes =>
    match String.fromUTF8? bytes with
    | none => .error (.read path .notUtf8)
    | some text => ofText text

end Config

end ExternalCompiler
