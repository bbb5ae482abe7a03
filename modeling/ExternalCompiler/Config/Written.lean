/-
Configurations as text:

* `integerText?`: an integer of a configuration file is a signed word, and others are not written;
* `Config.written?`: one line for each setting, in the order of their declaration, unless the value
  of one cannot be written.
-/
import ExternalCompiler.Config.Basic

namespace ExternalCompiler

/-- A line that gives a key its value. -/
def keyLine (key value : String) : String :=
  key ++ " = " ++ value ++ "\n"

/-- A truth value in a configuration file. -/
def boolText (b : Bool) : String :=
  if b then "true" else "false"

/-- An integer in a configuration file, if it is a signed word. -/
def integerText? (n : Int) : Option String :=
  if Int64.minValue.toInt ≤ n ∧ n ≤ Int64.maxValue.toInt then some (toString n) else none

namespace Config

/-- The lines of a configuration, if all its values can be written. -/
def lines? (c : Config) : Option (List String) := do
  let delay ← integerText? c.idleDelayMillis.toInt
  let grace ← integerText? c.startupGraceMillis.toNat
  pure
    [ keyLine "use_compiler" (boolText c.useCompiler),
      keyLine "external_compiler_enabled" (boolText c.externalCompilerEnabled),
      keyLine "use_external_compiler_as_default" (boolText c.externalCompilerDefault),
      keyLine "use_native_library_compiler" (boolText c.nativeLibrary),
      keyLine "execution_mode" ("\"" ++ c.executionMode.name ++ "\""),
      keyLine "idle_delay_millis" delay,
      keyLine "print_bootstrap_progress" (boolText c.printProgress),
      keyLine "startup_grace_millis" grace ]

/-- The configuration as text, if it has a written form. -/
def written? (c : Config) : Option String :=
  c.lines?.map String.join

end Config

end ExternalCompiler
