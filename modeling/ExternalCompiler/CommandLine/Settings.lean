/-
The configuration of a run:

* `Options.override`: what the command line changes in a configuration;
* `Options.compilerConfig`: the configuration file, if there is one, with these changes.

A configuration file has to be acceptable before the command line changes it.
-/
import ExternalCompiler.CommandLine.Options
import ExternalCompiler.Config.Read

namespace ExternalCompiler.Options

/-- Hosted mode turns the external compiler on and makes it a library. -/
def overrideHosted (o : Options) (c : Config) : Config :=
  if o.isHosted then { c with externalCompilerEnabled := true, nativeLibrary := true } else c

/-- The configuration with what the command line says about it. -/
def override (o : Options) (c : Config) : Config :=
  let c := o.overrideHosted c
  { c with
    idleDelayMillis := o.idleDelay.getD c.idleDelayMillis
    startupGraceMillis := o.startupGrace.getD c.startupGraceMillis
    printProgress := o.showsProgress || c.printProgress }

/-- The configuration that the command line starts from. -/
def baseConfig (o : Options) (read : String → Config.FileContent) : Except ConfigError Config :=
  match o.config with
  | none => .ok {}
  | some path => Config.ofFile path (read path)

/-- The configuration of a run. -/
def compilerConfig (o : Options) (read : String → Config.FileContent) :
    Except ConfigError Config := do
  let c ← o.baseConfig read
  (o.override c).validate
  .ok (o.override c)

end ExternalCompiler.Options
