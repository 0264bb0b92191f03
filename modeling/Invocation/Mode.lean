import Invocation.Numbering
import Invocation.Text.Utf8

/-!
# Targets, stages and modes

An invocation names a stage of the tool chain by a keyword: it stops after lexing, after parsing,
or it compiles. Compilation is for a target. The mode of an invocation says both at once, so only
the compile stage has modes that differ in their target, and no mode is without a meaning.

Each of the three types has its names, its order of counting, and a look-up by name that searches
the list that is also shown to the user. So a name is known exactly when it is shown
(`Target.ofName?_eq_some_iff`, `Stage.ofKeyword?_eq_some_iff`).
-/

set_option autoImplicit false
set_option relaxedAutoImplicit false

namespace Invocation

/-! ### Targets -/

/-- The output format of the compile stage. -/
inductive Target where
  /-- WebAssembly text. -/
  | wasm32
  /-- Bytecode for the peacock virtual machine. -/
  | pvm
  /-- Intermediate representation in text form. -/
  | ir
  deriving DecidableEq, Repr

namespace Target

/-- The targets as they are presented and counted. The first one is the default. -/
def all : List Target :=
  [wasm32, pvm, ir]

theorem mem_all (target : Target) : target ∈ all := by
  cases target <;> decide

instance : Numbered Target where
  order := all
  mem_order := mem_all
  nodup_order := by decide

/-- The target of an invocation that compiles and names none. -/
def default : Target :=
  wasm32

/-- The name of a target on the command line. -/
def name : Target → Bytes
  | wasm32 => utf8 "wasm32"
  | pvm => utf8 "pvm"
  | ir => utf8 "ir"

/-- The ending that output files for a target conventionally have, with its dot. -/
def extension : Target → Bytes
  | wasm32 => utf8 ".wat"
  | pvm => utf8 ".pvm"
  | ir => utf8 ".ir"

/-- The target with a name. -/
def ofName? (text : Bytes) : Option Target :=
  all.find? (·.name = text)

/-- A name finds a target exactly when it is the name of that target. -/
theorem ofName?_eq_some_iff {text : Bytes} {target : Target} :
    ofName? text = some target ↔ target.name = text := by
  constructor
  · intro hfound
    simpa using List.find?_some hfound
  · rintro rfl
    cases target <;> decide

end Target

/-! ### Stages -/

/-- How far through the tool chain an invocation runs. -/
inductive Stage where
  | lex
  | parse
  | compile
  deriving DecidableEq, Repr

namespace Stage

/-- The stages in the order in which they are presented to the user. -/
def all : List Stage :=
  [compile, lex, parse]

theorem mem_all (stage : Stage) : stage ∈ all := by
  cases stage <;> decide

/-- Stages are counted in the order in which they run. -/
instance : Numbered Stage where
  order := [lex, parse, compile]
  mem_order stage := by cases stage <;> decide
  nodup_order := by decide

/-- The word that names a stage on the command line. -/
def keyword : Stage → Bytes
  | lex => utf8 "lex"
  | parse => utf8 "parse"
  | compile => utf8 "com"

/-- The stage with a keyword. -/
def ofKeyword? (text : Bytes) : Option Stage :=
  all.find? (·.keyword = text)

/-- A keyword finds a stage exactly when it is the keyword of that stage. -/
theorem ofKeyword?_eq_some_iff {text : Bytes} {stage : Stage} :
    ofKeyword? text = some stage ↔ stage.keyword = text := by
  constructor
  · intro hfound
    simpa using List.find?_some hfound
  · rintro rfl
    cases stage <;> decide

end Stage

/-! ### Modes -/

/-- What a single invocation does. -/
inductive Mode where
  | lex
  | parse
  | compile (target : Target)
  deriving DecidableEq, Repr

namespace Mode

/-- Modes are counted by stage, and those that compile by target. -/
instance : Numbered Mode where
  order := [lex, parse, compile .wasm32, compile .pvm, compile .ir]
  mem_order mode := by
    rcases mode with _ | _ | target
    · decide
    · decide
    · cases target <;> decide
  nodup_order := by decide

/-- The stage at which a mode stops. -/
def stage : Mode → Stage
  | lex => .lex
  | parse => .parse
  | compile _ => .compile

/-- The target of a mode, if it compiles. -/
def target? : Mode → Option Target
  | compile target => some target
  | _ => none

/-- How a mode is shown: the keyword of its stage, and its target behind a slash. -/
def label (mode : Mode) : Bytes :=
  match mode.target? with
  | some target => mode.stage.keyword ++ utf8 "/" ++ target.name
  | none => mode.stage.keyword

end Mode

/-- The mode that a stage alone stands for: compilation is for the default target. -/
def Stage.baseMode : Stage → Mode
  | lex => .lex
  | parse => .parse
  | compile => .compile .default

@[simp] theorem Stage.stage_baseMode (stage : Stage) : stage.baseMode.stage = stage := by
  cases stage <;> rfl

/-- The mode that a keyword alone stands for. -/
def Mode.ofKeyword? (text : Bytes) : Option Mode :=
  (Stage.ofKeyword? text).map Stage.baseMode

end Invocation
