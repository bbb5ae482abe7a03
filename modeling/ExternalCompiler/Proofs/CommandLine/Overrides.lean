/-
What the command line changes about the configuration of a run:

* `Options.StartsFrom`: the configuration that the command line finds, whether or not it can be
  started;
* `Overridden`: the configuration with what the command line says about it, setting by setting;
  `override_eq_iff`: it is the one that a run is checked by;
* `Options.JudgedBy`: a run is accepted or refused by that configuration alone;
* `compilerConfig_eq`: a file is checked before the command line changes it, and what comes out is
  checked again;
* `overrides_apply`: so a run is judged by the changed configuration unless hosted mode is asked for
  on top of a file that cannot be started; `overrides_come_late`: such a run is refused.
-/
import Mathlib.Tactic.ByContra
import Mathlib.Tactic.Lemma
import ExternalCompiler.CommandLine.Settings

namespace ExternalCompiler

/-! ### What the command line says -/

/-- The command line finds the configuration `c`: the defaults if it names no file, and else what
its file says, which need not be a configuration that can be started. -/
def Options.StartsFrom (o : Options) (read : String → Config.FileContent) (c : Config) : Prop :=
  match o.config with
  | none => c = {}
  | some path => ∃ bytes text, read path = .ok bytes ∧ String.fromUTF8? bytes = some text ∧
      Config.parse text = .ok c

/-- The configuration `d` is the configuration `c` with what the command line says about it. -/
structure Overridden (o : Options) (c d : Config) : Prop where
  useCompiler : d.useCompiler = c.useCompiler
  externalCompilerEnabled :
    d.externalCompilerEnabled = if o.isHosted then true else c.externalCompilerEnabled
  externalCompilerDefault : d.externalCompilerDefault = c.externalCompilerDefault
  nativeLibrary : d.nativeLibrary = if o.isHosted then true else c.nativeLibrary
  executionMode : d.executionMode = c.executionMode
  idleDelayMillis : d.idleDelayMillis = o.idleDelay.getD c.idleDelayMillis
  printProgress : d.printProgress = if o.showsProgress then true else c.printProgress
  startupGraceMillis : d.startupGraceMillis = o.startupGrace.getD c.startupGraceMillis

/-- What the configuration `d` says about a run decides it: the run gets this configuration if it
can be started, and is refused as invalid exactly if it cannot. -/
structure Options.JudgedBy (o : Options) (read : String → Config.FileContent) (d : Config) :
    Prop where
  accepted : d.validate = .ok () → o.compilerConfig read = .ok d
  refused : (∃ reason, o.compilerConfig read = .error (.invalid reason)) ↔
    ∃ reason, d.validate = .error (.invalid reason)

section Overrides

variable {o : Options} {read : String → Config.FileContent} {c d : Config}

/-- The configuration that a run is checked by is the one with what the command line says. -/
lemma override_eq_iff : o.override c = d ↔ Overridden o c d := by
  constructor
  · rintro rfl
    unfold Options.override Options.overrideHosted
    constructor <;> (try split) <;> simp_all
  · rintro ⟨hcompiler, henabled, hdefault, hnative, hmode, hdelay, hprogress, hgrace⟩
    cases d
    unfold Options.override Options.overrideHosted
    split <;> simp_all

/-! ### When a run is refused -/

lemma validate_of_isValid (h : c.isValid = true) : c.validate = .ok () := by
  rw [Config.validate, if_pos h]

lemma validate_of_not_isValid (h : c.isValid = false) :
    c.validate = .error .hostedWithoutCompiler := by
  rw [Config.validate, h]
  rfl

/-- The defaults can be started, and a file is checked as it is read. -/
lemma Options.StartsFrom.baseConfig (h : o.StartsFrom read c) :
    o.baseConfig read = if c.isValid then .ok c else .error .hostedWithoutCompiler := by
  unfold Options.StartsFrom at h
  unfold Options.baseConfig
  cases hfile : o.config with
  | none =>
      rw [hfile] at h
      subst h
      rfl
  | some path =>
      rw [hfile] at h
      obtain ⟨bytes, text, hread, htext, hparse⟩ := h
      simp only [hread, Config.ofFile, htext, Config.ofText, hparse, Config.validate]
      split <;> rfl

/-- A run is accepted if what the command line finds can be started, and what it makes of it can be
started too. -/
lemma compilerConfig_eq (hstart : o.StartsFrom read c) (hover : Overridden o c d) :
    o.compilerConfig read =
      if c.isValid && d.isValid then .ok d else .error .hostedWithoutCompiler := by
  obtain rfl := override_eq_iff.mpr hover
  unfold Options.compilerConfig
  rw [hstart.baseConfig]
  cases hc : c.isValid with
  | false => rfl
  | true =>
      cases hd : (o.override c).isValid with
      | false => simp [bind, Except.bind, validate_of_not_isValid hd]
      | true => simp [bind, Except.bind, validate_of_isValid hd]

/-- A run is judged by what the command line makes of the configuration that it finds if the latter
can be started, or if the former cannot. -/
lemma judgedBy_iff (hstart : o.StartsFrom read c) (hover : Overridden o c d) :
    o.JudgedBy read d ↔ (d.isValid = true → c.isValid = true) := by
  have hconfig := compilerConfig_eq hstart hover
  constructor
  · intro hjudged hd
    by_contra hc
    have haccepted := hjudged.accepted (validate_of_isValid hd)
    rw [Bool.not_eq_true] at hc
    rw [hconfig, hc] at haccepted
    cases haccepted
  · intro hcd
    -- what can be started in the end could be started all along, so the first check adds nothing
    have hboth : (c.isValid && d.isValid) = d.isValid := by
      cases hd : d.isValid with
      | false => exact Bool.and_false _
      | true => rw [hcd hd, Bool.and_true]
    rw [hboth] at hconfig
    cases hd : d.isValid with
    | false =>
        rw [hd] at hconfig
        have hrefused := validate_of_not_isValid hd
        refine ⟨fun haccepted => ?_, by simp [hconfig, hrefused]⟩
        rw [hrefused] at haccepted
        cases haccepted
    | true =>
        rw [hd] at hconfig
        refine ⟨fun _ => hconfig, ?_⟩
        simp [hconfig, validate_of_isValid hd]

/-- Hosted mode on the command line brings the external compiler along; without it the command line
changes nothing that decides whether a configuration can be started. -/
lemma Overridden.isValid (h : Overridden o c d) : d.isValid = (o.isHosted || c.isValid) := by
  rw [Config.isValid, h.nativeLibrary, h.externalCompilerEnabled, Config.isValid]
  cases o.isHosted <;> simp

/-- **When the command line overrides a file.** Let `d` be what the command line makes of the
configuration `c` that it finds. If `d` cannot be started, the run is refused. The run is judged by
`d` but for one case: hosted mode is asked for on top of a file that asks for it too and switches
the external compiler off. Then `d` can be started, and the run is refused all the same. -/
theorem overrides_apply (hstart : o.StartsFrom read c) (hover : Overridden o c d) :
    (d.isValid = false → o.compilerConfig read = .error .hostedWithoutCompiler) ∧
    (o.JudgedBy read d ↔
      ¬ (o.isHosted = true ∧ c.nativeLibrary = true ∧ c.externalCompilerEnabled = false)) ∧
    (o.isHosted = true ∧ c.nativeLibrary = true ∧ c.externalCompilerEnabled = false →
      d.validate = .ok () ∧ o.compilerConfig read = .error .hostedWithoutCompiler) := by
  have hconfig := compilerConfig_eq hstart hover
  have hbase : c.isValid = false ↔
      c.nativeLibrary = true ∧ c.externalCompilerEnabled = false := by
    simp [Config.isValid]
  refine ⟨fun hd => ?_, ?_, fun ⟨hhosted, hoff⟩ => ⟨?_, ?_⟩⟩
  · rw [hconfig, hd, Bool.and_false]
    rfl
  · rw [judgedBy_iff hstart hover, hover.isValid, ← hbase]
    cases o.isHosted <;> cases c.isValid <;> simp
  · exact validate_of_isValid (by rw [hover.isValid, hhosted, Bool.true_or])
  · rw [hconfig, hbase.mpr hoff]
    rfl

end Overrides

/-! ### A file that cannot be started -/

/-- A configuration file that asks for hosted mode and switches the external compiler off. -/
def disabledText : String :=
  "external_compiler_enabled = false\nuse_native_library_compiler = true\n"

/-- What it says. -/
def disabledConfig : Config where
  externalCompilerEnabled := false
  nativeLibrary := true

/-- The file system in which every path leads to this file. -/
def readDisabled (_ : String) : Config.FileContent :=
  .ok disabledText.toUTF8

/-- The command line names a file. -/
def fileOptions : Options where
  config := some "compiler.toml"
  idleDelay := some (-1)

lemma startsFrom_disabled {o : Options} {path : String} (h : o.config = some path) :
    o.StartsFrom readDisabled disabledConfig := by
  have hparse : (Config.parse disabledText).toOption = some disabledConfig := by decide +kernel
  unfold Options.StartsFrom
  rw [h]
  refine ⟨disabledText.toUTF8, disabledText, rfl, by decide +kernel, ?_⟩
  cases hresult : Config.parse disabledText with
  | error e =>
      rw [hresult] at hparse
      cases hparse
  | ok c =>
      rw [hresult] at hparse
      rw [Option.some.inj hparse]

/-- Without hosted mode on the command line the file decides, and the run is refused. -/
theorem overrides_apply_unhosted :
    fileOptions.JudgedBy readDisabled (fileOptions.override disabledConfig) ∧
      fileOptions.compilerConfig readDisabled = .error .hostedWithoutCompiler := by
  obtain ⟨hrefused, hjudged, -⟩ :=
    overrides_apply (startsFrom_disabled (o := fileOptions) rfl) (override_eq_iff.mp rfl)
  exact ⟨hjudged.mpr (by decide), hrefused (by decide)⟩

/-- The command line asks for hosted mode on top of the file. -/
def hostedOptions : Options where
  config := some "compiler.toml"
  isHosted := true

/-- **The overrides come late.** The command line makes a configuration of the file that can be
started, and the run is refused for what the file says without it. -/
theorem overrides_come_late :
    hostedOptions.StartsFrom readDisabled disabledConfig ∧
      Overridden hostedOptions disabledConfig { nativeLibrary := true } ∧
      Config.validate { nativeLibrary := true } = .ok () ∧
      hostedOptions.compilerConfig readDisabled = .error .hostedWithoutCompiler ∧
      ¬ hostedOptions.JudgedBy readDisabled { nativeLibrary := true } := by
  have hstart := startsFrom_disabled (o := hostedOptions) rfl
  have hover : Overridden hostedOptions disabledConfig { nativeLibrary := true } :=
    override_eq_iff.mp rfl
  refine ⟨hstart, hover, rfl, compilerConfig_eq hstart hover, fun hjudged => ?_⟩
  exact absurd ((judgedBy_iff hstart hover).mp hjudged rfl) (by decide)

end ExternalCompiler
