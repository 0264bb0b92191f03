import Invocation.Mode.Table
import Invocation.Proofs.Grammar

/-!
# Canonical command lines

Every configuration with an input path is the answer to some argument list, and one such list can be
written down from the configuration alone: `Config.commandLine` spells out all that it holds, and
`resolve_commandLine` says that it is read back as it was.

Callers hold a configuration with a number for its mode, which they may make up (`PlainConfig`).
They write its command line with what the tables know of that number. `plain_commandLine` says that
the tables agree with each other along the way, and `resolve_image` that the well-formed
configurations of this form are exactly the answers of the resolver.
-/

set_option autoImplicit false
set_option relaxedAutoImplicit false

namespace Invocation

open Grammar

/-! ### Configurations with a mode -/

/-- The settings that spell out a configuration are settings that its stage takes. -/
theorem Config.isAllowedIn_of_mem_settings {config : Config} {setting : Setting}
    (hmem : setting ∈ config.settings) : setting.flag.isAllowedIn config.mode.stage = true := by
  rcases List.mem_cons.mp hmem with rfl | hmem
  · rfl
  · obtain ⟨target, htarget, rfl⟩ := Option.map_eq_some_iff.mp (Option.mem_toList.mp hmem)
    obtain ⟨mode, input, output⟩ := config
    cases mode with
    | lex => cases htarget
    | parse => cases htarget
    | compile chosen => rfl

/-- The settings that spell out a configuration make it from the initial one of its stage. -/
theorem Config.applyAll_settings (config : Config) :
    (Config.initial config.mode.stage config.input).applyAll config.settings = config := by
  obtain ⟨mode, input, output⟩ := config
  cases mode <;> rfl

/-- Assumes: a configuration with an input path. Its canonical command line stands for it. -/
theorem resolve_commandLine {config : Config} (hinput : config.input ≠ []) :
    resolve config.commandLine = .ok config := by
  have hread : readSettings config.mode.stage (config.settings.flatMap Setting.tokens) =
      .ok config.settings :=
    readSettings_eq_ok_iff.mpr ⟨rfl, fun setting hmem ↦ Config.isAllowedIn_of_mem_settings hmem⟩
  rw [Config.commandLine, resolve_complete_ok hinput hread, config.applyAll_settings]

/-- Assumes: an accepted list. Its configuration has an input path. -/
theorem input_ne_nil_of_resolve {args : List Bytes} {config : Config}
    (hresolve : resolve args = .ok config) : config.input ≠ [] := by
  obtain ⟨stage, input, arguments, settings, rfl, hinput, -, rfl⟩ := resolve_eq_ok_iff.mp hresolve
  rw [input_applyAll]
  exact hinput

/-! ### Configurations with a number -/

/-- A configuration as callers hold it. The mode is a number, which callers may make up. -/
structure PlainConfig where
  mode : Int
  input : Bytes
  output : Bytes
  deriving DecidableEq, Repr

/-- A configuration with the number of its mode. -/
def Config.plain (config : Config) : PlainConfig where
  mode := Numbered.number (some config.mode)
  input := config.input
  output := config.output

/-- The canonical command line of a configuration, as far as the tables know its mode. -/
def PlainConfig.commandLine (plain : PlainConfig) : List Bytes :=
  [Stage.keywordAt (Numbered.number (Mode.stageAt? plain.mode)), plain.input,
    utf8 "--out", plain.output] ++
    match Mode.targetAt? plain.mode with
    | some target => [utf8 "--target", Target.nameAt (Numbered.number (some target))]
    | none => []

/-- Whether an argument list stands for a configuration. -/
def ResolvesTo (args : List Bytes) (plain : PlainConfig) : Prop :=
  ∃ config, resolve args = .ok config ∧ config.plain = plain

/-! ### Tables -/

@[simp] theorem Mode.stageAt?_number (mode : Mode) :
    stageAt? (Numbered.number (some mode)) = some mode.stage := by
  rw [stageAt?, Numbered.ofNumber?_number]
  rfl

@[simp] theorem Mode.targetAt?_number (mode : Mode) :
    targetAt? (Numbered.number (some mode)) = mode.target? := by
  rw [targetAt?, Numbered.ofNumber?_number]
  rfl

@[simp] theorem Stage.keywordAt_number (stage : Stage) :
    keywordAt (Numbered.number (some stage)) = stage.keyword := by
  rw [keywordAt, Numbered.ofNumber?_number]
  rfl

@[simp] theorem Target.nameAt_number (target : Target) :
    nameAt (Numbered.number (some target)) = target.name := by
  rw [nameAt, Numbered.ofNumber?_number]
  rfl

/-- The numbers that belong to modes are the numbers of modes. -/
theorem Mode.isNumber_iff {n : Int} :
    isNumber n = true ↔ ∃ mode : Mode, n = Numbered.number (some mode) := by
  rw [isNumber, Option.isSome_iff_exists]
  simp only [Numbered.ofNumber?_eq_some_iff]

/-- The tables agree: from the number of its mode, the command line of a configuration is written as
from the mode itself. -/
theorem Config.plain_commandLine (config : Config) :
    config.plain.commandLine = config.commandLine := by
  obtain ⟨mode, input, output⟩ := config
  simp only [PlainConfig.commandLine, plain, Mode.stageAt?_number, Mode.targetAt?_number,
    Stage.keywordAt_number, Target.nameAt_number]
  cases mode <;> rfl

/-! ### The image of the resolver -/

/-- What an argument list stands for has the number of a mode and an input path. -/
theorem ResolvesTo.wellFormed {args : List Bytes} {plain : PlainConfig}
    (hresolves : ResolvesTo args plain) : Mode.isNumber plain.mode = true ∧ plain.input ≠ [] := by
  obtain ⟨config, hresolve, rfl⟩ := hresolves
  exact ⟨Mode.isNumber_iff.mpr ⟨config.mode, rfl⟩, input_ne_nil_of_resolve hresolve⟩

/-- Assumes: a configuration with the number of a mode and an input path. Its canonical command line
stands for it. -/
theorem PlainConfig.resolvesTo_commandLine {plain : PlainConfig}
    (hnumber : Mode.isNumber plain.mode = true) (hinput : plain.input ≠ []) :
    ResolvesTo plain.commandLine plain := by
  obtain ⟨mode, hmode⟩ := Mode.isNumber_iff.mp hnumber
  have hplain : Config.plain ⟨mode, plain.input, plain.output⟩ = plain := by
    rw [Config.plain, ← hmode]
  refine ⟨⟨mode, plain.input, plain.output⟩, ?_, hplain⟩
  rw [← hplain, Config.plain_commandLine]
  exact resolve_commandLine hinput

/-- Some argument list stands for a configuration exactly when it has the number of a mode and an
input path; the output path may be anything. Its canonical command line is such a list then, so the
configuration of any accepted list is read back from its canonical command line. -/
theorem resolve_image (plain : PlainConfig) :
    ((∃ args, ResolvesTo args plain) ↔ Mode.isNumber plain.mode = true ∧ plain.input ≠ []) ∧
    (Mode.isNumber plain.mode = true → plain.input ≠ [] → ResolvesTo plain.commandLine plain) ∧
    ∀ args, ResolvesTo args plain → ResolvesTo plain.commandLine plain := by
  refine ⟨⟨?_, ?_⟩, PlainConfig.resolvesTo_commandLine, ?_⟩
  · rintro ⟨args, hresolves⟩
    exact hresolves.wellFormed
  · rintro ⟨hnumber, hinput⟩
    exact ⟨plain.commandLine, PlainConfig.resolvesTo_commandLine hnumber hinput⟩
  · intro args hresolves
    obtain ⟨hnumber, hinput⟩ := hresolves.wellFormed
    exact PlainConfig.resolvesTo_commandLine hnumber hinput

/-- The fourth mode compiles for the second target, and an empty output path is written like any
other. -/
theorem resolve_image_bytecode :
    let plain : PlainConfig := ⟨4, utf8 "com", []⟩
    Mode.isNumber plain.mode = true ∧ plain.input ≠ [] ∧
      plain.commandLine =
        [utf8 "com", utf8 "com", utf8 "--out", [], utf8 "--target", utf8 "pvm"] ∧
      ResolvesTo plain.commandLine plain := by
  intro plain
  have hnumber : Mode.isNumber plain.mode = true := by decide
  have hinput : plain.input ≠ [] := by decide
  exact ⟨hnumber, hinput, rfl, (resolve_image plain).2.1 hnumber hinput⟩

end Invocation
