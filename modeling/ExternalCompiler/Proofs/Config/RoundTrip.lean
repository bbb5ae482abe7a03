/-
What is written about a configuration is read back:

* `Setting`: the eight settings, with their names and their values in a configuration;
* `written_eq_some_iff`: which configurations are written, and how;
* `setKey_name`, `setKey_other`: reading the line of a setting adopts it, and reading a line of
  another key adopts nothing;
* `exists_adopted`: so lines are read setting by setting;
* `Rewriting`: permuting the lines of a configuration, leaving out defaults, adding other keys;
* `Describes`: what such lines still say, `Rewriting.describes` by induction;
* `config_round_trip`: every text of such lines is read as the configuration.
-/
import Mathlib.Algebra.Ring.Nat
import ExternalCompiler.Config.Read
import ExternalCompiler.Proofs.Toml.Lines

namespace ExternalCompiler

open Toml (Scalar Line)

/-! ### Settings -/

/-- The settings of a configuration. -/
inductive Setting
  | useCompiler
  | externalCompilerEnabled
  | externalCompilerDefault
  | nativeLibrary
  | executionMode
  | idleDelayMillis
  | printProgress
  | startupGraceMillis
deriving DecidableEq

namespace Setting

/-- All settings, in the order of their declaration. -/
def all : List Setting :=
  [useCompiler, externalCompilerEnabled, externalCompilerDefault, nativeLibrary, executionMode,
    idleDelayMillis, printProgress, startupGraceMillis]

lemma mem_all (f : Setting) : f ∈ all := by
  cases f <;> decide

/-- The key of a setting. -/
def name : Setting → String
  | useCompiler => "use_compiler"
  | externalCompilerEnabled => "external_compiler_enabled"
  | externalCompilerDefault => "use_external_compiler_as_default"
  | nativeLibrary => "use_native_library_compiler"
  | executionMode => "execution_mode"
  | idleDelayMillis => "idle_delay_millis"
  | printProgress => "print_bootstrap_progress"
  | startupGraceMillis => "startup_grace_millis"

/-- The value of a setting. -/
def value (c : Config) : Setting → Scalar
  | useCompiler => .boolean c.useCompiler
  | externalCompilerEnabled => .boolean c.externalCompilerEnabled
  | externalCompilerDefault => .boolean c.externalCompilerDefault
  | nativeLibrary => .boolean c.nativeLibrary
  | executionMode => .string c.executionMode.name
  | idleDelayMillis => .integer c.idleDelayMillis.toInt
  | printProgress => .boolean c.printProgress
  | startupGraceMillis => .integer c.startupGraceMillis.toNat

/-- The line of a setting. -/
def line (c : Config) (f : Setting) : Line :=
  ⟨f.name, f.value c⟩

/-- The configuration `d` with a setting taken from `c`. -/
def adopt (c d : Config) : Setting → Config
  | useCompiler => { d with useCompiler := c.useCompiler }
  | externalCompilerEnabled => { d with externalCompilerEnabled := c.externalCompilerEnabled }
  | externalCompilerDefault => { d with externalCompilerDefault := c.externalCompilerDefault }
  | nativeLibrary => { d with nativeLibrary := c.nativeLibrary }
  | executionMode => { d with executionMode := c.executionMode }
  | idleDelayMillis => { d with idleDelayMillis := c.idleDelayMillis }
  | printProgress => { d with printProgress := c.printProgress }
  | startupGraceMillis => { d with startupGraceMillis := c.startupGraceMillis }

variable {c d : Config} {f g : Setting}

lemma value_adopt_self (c d : Config) (f : Setting) : f.value (f.adopt c d) = f.value c := by
  cases f <;> rfl

lemma value_adopt_other (h : g ≠ f) : g.value (f.adopt c d) = g.value d := by
  cases f <;> cases g <;> first | rfl | exact absurd rfl h

lemma name_injective : Function.Injective name := by
  intro f g h
  cases f <;> cases g <;> first | rfl | (revert h; decide)

lemma name_bare (f : Setting) : f.name ≠ "" ∧ f.name.toList.all Toml.isBare = true := by
  cases f <;> decide

end Setting

lemma ExecutionMode.name_injective : Function.Injective ExecutionMode.name := by
  intro m m' h
  cases m <;> cases m' <;> first | rfl | (revert h; decide)

/-- The values of its settings make up a configuration. -/
lemma Config.eq_of_values {c d : Config} (h : ∀ f : Setting, f.value c = f.value d) : c = d := by
  have hcompiler := Scalar.boolean.inj (h .useCompiler)
  have henabled := Scalar.boolean.inj (h .externalCompilerEnabled)
  have hdefault := Scalar.boolean.inj (h .externalCompilerDefault)
  have hnative := Scalar.boolean.inj (h .nativeLibrary)
  have hmode := ExecutionMode.name_injective (Scalar.string.inj (h .executionMode))
  have hdelay := Int64.toInt_inj.mp (Scalar.integer.inj (h .idleDelayMillis))
  have hprogress := Scalar.boolean.inj (h .printProgress)
  have hgrace := UInt64.toNat_inj.mp (Int.ofNat.inj (Scalar.integer.inj (h .startupGraceMillis)))
  cases c
  cases d
  simp_all

/-! ### Writing lines -/

section Writing

variable {c : Config}

/-- Every delay is a signed word. -/
lemma isPlain_idleDelay (c : Config) : (Scalar.integer c.idleDelayMillis.toInt).IsPlain :=
  ⟨Int64.minValue_le_toInt _, Int64.toInt_le _⟩

/-- A grace period may be too long for a signed word. -/
lemma isPlain_startupGrace :
    (Scalar.integer c.startupGraceMillis.toNat).IsPlain ↔
      c.startupGraceMillis.toNat ≤ 2 ^ 63 - 1 := by
  have hmax : Int64.maxValue.toInt = 2 ^ 63 - 1 := by decide
  have hmin : Int64.minValue.toInt = -2 ^ 63 := by decide
  rw [Scalar.IsPlain, hmin, hmax]
  omega

/-- The text of a configuration is made of the lines of its settings, and there is one exactly if
the grace period is a signed word. -/
lemma written_eq_some_iff {text : String} :
    c.written? = some text ↔ c.startupGraceMillis.toNat ≤ 2 ^ 63 - 1 ∧
      String.join ((Setting.all.map fun f => f.line c).map Line.text) = text := by
  have hdelay : integerText? c.idleDelayMillis.toInt = some (toString c.idleDelayMillis.toInt) :=
    if_pos (isPlain_idleDelay c)
  by_cases hgrace : c.startupGraceMillis.toNat ≤ 2 ^ 63 - 1
  · have hwritten : integerText? c.startupGraceMillis.toNat =
        some (toString (c.startupGraceMillis.toNat : Int)) :=
      if_pos (isPlain_startupGrace.mpr hgrace)
    have hlines : c.written? =
        some (String.join ((Setting.all.map fun f => f.line c).map Line.text)) := by
      rw [Config.written?, Config.lines?, hdelay, hwritten]
      rfl
    rw [hlines, Option.some.injEq, and_iff_right hgrace]
  · have hnone : integerText? c.startupGraceMillis.toNat = none :=
      if_neg fun hplain => hgrace (isPlain_startupGrace.mp hplain)
    have hlines : c.written? = none := by
      rw [Config.written?, Config.lines?, hdelay, hnone]
      rfl
    exact ⟨fun htext => absurd (hlines.symm.trans htext) nofun, fun htext => absurd htext.1 hgrace⟩

/-- A configuration can be written exactly if its grace period is a signed word. -/
lemma written_isSome_iff : c.written?.isSome = true ↔ c.startupGraceMillis.toNat ≤ 2 ^ 63 - 1 := by
  simp only [Option.isSome_iff_exists, written_eq_some_iff, exists_and_left, exists_eq',
    and_true]

end Writing

/-! ### Reading lines -/

section Reading

variable {c d : Config} {f : Setting} {l : Line} {ls : List Line}

lemma ExecutionMode.ofName_name (m : ExecutionMode) : ExecutionMode.ofName? m.name = some m := by
  cases m <;> decide

/-- Reading the line of a setting adopts the setting. -/
lemma setKey_name (c d : Config) (f : Setting) :
    d.setKey f.name (f.value c).node = .ok (f.adopt c d) := by
  cases f with
  | executionMode =>
      have hmode : modeOf (.string c.executionMode.name) = .ok c.executionMode := by
        rw [modeOf, modeNamed, ExecutionMode.ofName_name]
      simp [Config.setKey, Setting.name, Setting.value, Scalar.node, hmode, Except.map,
        Setting.adopt]
  | idleDelayMillis =>
      simp [Config.setKey, Setting.name, Setting.value, Scalar.node, signedOf, Except.map,
        Setting.adopt]
  | startupGraceMillis =>
      simp [Config.setKey, Setting.name, Setting.value, Scalar.node, unsignedOf, Except.map,
        Setting.adopt]
  | _ => rfl

/-- Reading a line of another key adopts nothing. -/
lemma setKey_other {key : String} (h : ∀ f : Setting, key ≠ f.name) (node : Toml.Node) :
    d.setKey key node = .ok d := by
  have hcompiler : key ≠ "use_compiler" := h .useCompiler
  have henabled : key ≠ "external_compiler_enabled" := h .externalCompilerEnabled
  have hdefault : key ≠ "use_external_compiler_as_default" := h .externalCompilerDefault
  have hnative : key ≠ "use_native_library_compiler" := h .nativeLibrary
  have hmode : key ≠ "execution_mode" := h .executionMode
  have hdelay : key ≠ "idle_delay_millis" := h .idleDelayMillis
  have hprogress : key ≠ "print_bootstrap_progress" := h .printProgress
  have hgrace : key ≠ "startup_grace_millis" := h .startupGraceMillis
  simp [Config.setKey, *]

/-- The line of a setting is read back as it is written, if it can be written. -/
lemma wellFormed_line (hgrace : c.startupGraceMillis.toNat ≤ 2 ^ 63 - 1) (f : Setting) :
    (f.line c).WellFormed where
  nonempty := f.name_bare.1
  bare := List.all_eq_true.mp f.name_bare.2
  plain := by
    cases f with
    | executionMode =>
        show (Scalar.string c.executionMode.name).IsPlain
        cases c.executionMode <;> decide
    | idleDelayMillis => exact isPlain_idleDelay c
    | startupGraceMillis => exact isPlain_startupGrace.mpr hgrace
    | _ => trivial

/-- Reading lines of a configuration adopts the settings that they give. -/
lemma exists_adopted (hknown : ∀ l ∈ ls, ∀ f : Setting, l.key = f.name → l = f.line c)
    (start : Config) :
    ∃ d : Config, (ls.map Line.entry).foldlM (fun c e => c.setKey e.1 e.2) start = .ok d ∧
      ∀ f : Setting, f.value d = if f.line c ∈ ls then f.value c else f.value start := by
  induction ls generalizing start with
  | nil => exact ⟨start, rfl, fun f => rfl⟩
  | cons l ls ih =>
      obtain ⟨hl, hls⟩ := List.forall_mem_cons.mp hknown
      -- a line gives a setting, which is then that of `c`, or it is passed over
      by_cases hname : ∃ g : Setting, l.key = g.name
      · obtain ⟨g, hg⟩ := hname
        obtain rfl := hl g hg
        obtain ⟨d, hread, hvalues⟩ := ih hls (g.adopt c start)
        refine ⟨d, ?_, fun f => ?_⟩
        · rw [List.map_cons, List.foldlM_cons, Line.entry, Setting.line, setKey_name]
          exact hread
        · rw [hvalues f]
          by_cases hfg : f = g
          · subst hfg
            simp [Setting.value_adopt_self]
          · have hline : f.line c ≠ g.line c := fun heq =>
              hfg (Setting.name_injective (congrArg Line.key heq))
            simp [Setting.value_adopt_other hfg, hline]
      · have hother : ∀ g : Setting, l.key ≠ g.name := fun g hg => hname ⟨g, hg⟩
        obtain ⟨d, hread, hvalues⟩ := ih hls start
        refine ⟨d, ?_, fun f => ?_⟩
        · rw [List.map_cons, List.foldlM_cons, Line.entry, setKey_other hother]
          exact hread
        · have hline : f.line c ≠ l := fun heq => hother f (congrArg Line.key heq).symm
          simp [hvalues f, hline]

end Reading

/-! ### Rewritings -/

/-- Lines that a written configuration is changed to: they are permuted, lines of defaults are left
out, and lines with other keys are added. -/
inductive Rewriting (c : Config) : List Line → Prop
  | written : Rewriting c (Setting.all.map (·.line c))
  | permute {ls ls' : List Line} (h : Rewriting c ls) (hperm : ls.Perm ls') : Rewriting c ls'
  | leaveOut {f : Setting} {ls : List Line} (h : Rewriting c (f.line c :: ls))
      (hdefault : f.value c = f.value {}) : Rewriting c ls
  | add {l : Line} {ls : List Line} (h : Rewriting c ls) (hl : l.WellFormed)
      (hother : ∀ f : Setting, l.key ≠ f.name) (hnew : ∀ l' ∈ ls, l'.key ≠ l.key) :
      Rewriting c (l :: ls)

/-- The lines give the settings of a configuration that are no defaults, and among the settings only
its own. -/
structure Describes (c : Config) (ls : List Line) : Prop where
  wellFormed : ∀ l ∈ ls, l.WellFormed
  distinct : (ls.map (·.key)).Nodup
  known : ∀ l ∈ ls, ∀ f : Setting, l.key = f.name → l = f.line c
  complete : ∀ f : Setting, f.line c ∈ ls ∨ f.value c = f.value {}

variable {c : Config} {ls : List Line}

lemma describes_written (hgrace : c.startupGraceMillis.toNat ≤ 2 ^ 63 - 1) :
    Describes c (Setting.all.map (·.line c)) where
  wellFormed := List.forall_mem_map.mpr fun f _ => wellFormed_line hgrace f
  distinct := by
    rw [List.map_map]
    exact (by decide : (Setting.all.map Setting.name).Nodup)
  known := List.forall_mem_map.mpr fun g _ f hname => by
    rw [Setting.name_injective hname]
  complete f := .inl (List.mem_map.mpr ⟨f, f.mem_all, rfl⟩)

/-- **Rewriting keeps what lines describe.** -/
lemma Rewriting.describes (hgrace : c.startupGraceMillis.toNat ≤ 2 ^ 63 - 1)
    (h : Rewriting c ls) : Describes c ls := by
  induction h with
  | written => exact describes_written hgrace
  | permute _ hperm ih =>
      exact {
        wellFormed := fun l hl => ih.wellFormed l (hperm.mem_iff.mpr hl)
        distinct := (hperm.map _).nodup_iff.mp ih.distinct
        known := fun l hl => ih.known l (hperm.mem_iff.mpr hl)
        complete := fun f => (ih.complete f).imp_left hperm.mem_iff.mp }
  | @leaveOut f ls _ hdefault ih =>
      exact {
        wellFormed := fun l hl => ih.wellFormed l (List.mem_cons_of_mem _ hl)
        distinct := (List.nodup_cons.mp ih.distinct).2
        known := fun l hl => ih.known l (List.mem_cons_of_mem _ hl)
        complete := fun g => by
          -- the setting that is left out is a default, the others still have their lines
          by_cases hg : g = f
          · exact .inr (hg ▸ hdefault)
          · have hline : g.line c ≠ f.line c := fun heq =>
              hg (Setting.name_injective (congrArg Line.key heq))
            exact (ih.complete g).imp_left fun hmem => (List.mem_cons.mp hmem).resolve_left hline }
  | @add l ls _ hl hother hnew ih =>
      exact {
        wellFormed := List.forall_mem_cons.mpr ⟨hl, ih.wellFormed⟩
        distinct := List.nodup_cons.mpr ⟨fun hmem => by
          obtain ⟨l', hl', heq⟩ := List.mem_map.mp hmem
          exact hnew l' hl' heq, ih.distinct⟩
        known := List.forall_mem_cons.mpr ⟨fun f hname => absurd hname (hother f), ih.known⟩
        complete := fun f => (ih.complete f).imp_left (List.mem_cons_of_mem _) }

/-- The lines that describe a configuration are read as this configuration. -/
lemma Describes.ofEntries (h : Describes c ls) :
    Config.ofEntries (ls.map Line.entry) = .ok c := by
  obtain ⟨d, hread, hvalues⟩ := exists_adopted h.known {}
  have hd : d = c := by
    refine Config.eq_of_values fun f => ?_
    rw [hvalues f]
    split
    · rfl
    · next habsent => exact ((h.complete f).resolve_left habsent).symm
  exact hd ▸ hread

/-- So is their text, unless the configuration cannot be started. -/
lemma Describes.ofText (h : Describes c ls) :
    Config.ofText (String.join (ls.map Line.text)) =
      if c.isValid then .ok c else .error .hostedWithoutCompiler := by
  have hparse : Config.parse (String.join (ls.map Line.text)) = .ok c := by
    rw [Config.parse, Toml.document_lines h.wellFormed h.distinct]
    exact h.ofEntries
  simp only [Config.ofText, hparse, Config.validate]
  split <;> rfl

/-- **What is written about a configuration is read back.** A configuration can be written exactly
if its grace period is below `2 ^ 63` milliseconds. Its text has a line for each setting and is then
read as the configuration, if this can be started, and is refused otherwise; and so is every text
that its lines can be rewritten to: in any order, without lines that give a default, and with lines
of other keys. -/
theorem config_round_trip (c : Config) :
    (c.written?.isSome = true ↔ c.startupGraceMillis.toNat ≤ 2 ^ 63 - 1) ∧
    ∀ text, c.written? = some text →
      text = String.join ((Setting.all.map (·.line c)).map Line.text) ∧
      (Config.ofText text = if c.isValid then .ok c else .error .hostedWithoutCompiler) ∧
      ∀ ls, Rewriting c ls → Config.ofText (String.join (ls.map Line.text)) =
        if c.isValid then .ok c else .error .hostedWithoutCompiler := by
  refine ⟨written_isSome_iff, fun text htext => ?_⟩
  obtain ⟨hgrace, rfl⟩ := written_eq_some_iff.mp htext
  exact ⟨rfl, (describes_written hgrace).ofText, fun ls h => (h.describes hgrace).ofText⟩

/-- An interpreting runtime with a hosted compiler whose workers are never detached. -/
def interpretingConfig : Config where
  nativeLibrary := true
  executionMode := .interpreted
  idleDelayMillis := -5

/-- Its lines without the defaults, the last ones first, and a line of another key. -/
def interpretingLines : List Line :=
  [⟨"idle_delay_millis", .integer (-5)⟩, ⟨"execution_mode", .string "interpreted"⟩,
    ⟨"vendor-note", .string "no delay"⟩, ⟨"use_native_library_compiler", .boolean true⟩]

/-- The text of these lines. -/
def interpretingText : String :=
  "idle_delay_millis = -5\nexecution_mode = \"interpreted\"\nvendor-note = \"no delay\"\n"
    ++ "use_native_library_compiler = true\n"

lemma rewriting_interpretingLines : Rewriting interpretingConfig interpretingLines := by
  have hdefaults : Rewriting interpretingConfig
      (([.useCompiler, .externalCompilerEnabled, .externalCompilerDefault, .printProgress,
        .startupGraceMillis, .nativeLibrary, .executionMode, .idleDelayMillis] : List Setting).map
          (·.line interpretingConfig)) := .permute .written (by decide)
  have hothers : Rewriting interpretingConfig
      (([.nativeLibrary, .executionMode, .idleDelayMillis] : List Setting).map
        (·.line interpretingConfig)) :=
    ((((hdefaults.leaveOut rfl).leaveOut rfl).leaveOut rfl).leaveOut rfl).leaveOut rfl
  have hnote : (⟨"vendor-note", .string "no delay"⟩ : Line).WellFormed := by decide
  exact .permute (hothers.add hnote (fun f => by cases f <;> decide) (by decide)) (by decide)

/-- A text made of these lines is read as the configuration. -/
theorem config_round_trip_interpreting :
    Config.ofText interpretingText = .ok interpretingConfig := by
  have htext : String.join (interpretingLines.map Line.text) = interpretingText := by
    decide +kernel
  obtain ⟨hwritten, hread⟩ := config_round_trip interpretingConfig
  obtain ⟨text, hsome⟩ := Option.isSome_iff_exists.mp (hwritten.mpr (by decide))
  rw [← htext]
  obtain ⟨-, -, hrewritten⟩ := hread text hsome
  exact hrewritten _ rewriting_interpretingLines

end ExternalCompiler
