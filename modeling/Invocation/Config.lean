import Invocation.Mode

/-!
# Configurations and their settings

A configuration is what an accepted command line means: a mode, an input path and an output path.
It starts from a stage and an input path, and each setting that follows replaces one field of it,
so the last setting of a kind decides. A setting is written as two arguments, a flag and a value
(`Setting.tokens`).

`Config.commandLine` writes the canonical command line of a configuration. `Config.summary` is the
line that reports an accepted invocation.
-/

set_option autoImplicit false
set_option relaxedAutoImplicit false

namespace Invocation

/-! ### Flags and settings -/

/-- The options that may follow the input path. -/
inductive Flag where
  | out
  | target
  deriving DecidableEq, Repr

namespace Flag

/-- The spelling of a flag on the command line. -/
def name : Flag → Bytes
  | out => utf8 "--out"
  | target => utf8 "--target"

/-- The flags. -/
def all : List Flag :=
  [out, target]

/-- The flag with a spelling. -/
def ofName? (text : Bytes) : Option Flag :=
  all.find? (·.name = text)

/-- A spelling finds a flag exactly when it is the spelling of that flag. -/
theorem ofName?_eq_some_iff {text : Bytes} {flag : Flag} :
    ofName? text = some flag ↔ flag.name = text := by
  constructor
  · intro hfound
    simpa using List.find?_some hfound
  · rintro rfl
    cases flag <;> decide

/-- Whether a stage takes a flag: every stage has an output path, and only the compile stage has a
target. -/
def isAllowedIn (stage : Stage) : Flag → Bool
  | out => true
  | target => stage = .compile

end Flag

/-- A flag together with the value that it was given. -/
inductive Setting where
  | output (path : Bytes)
  | target (chosen : Target)
  deriving DecidableEq, Repr

namespace Setting

/-- The flag that makes a setting. -/
def flag : Setting → Flag
  | output _ => .out
  | target _ => .target

/-- The argument that follows the flag of a setting. -/
def value : Setting → Bytes
  | output path => path
  | target chosen => chosen.name

/-- The two arguments that make a setting. -/
def tokens (setting : Setting) : List Bytes :=
  [setting.flag.name, setting.value]

end Setting

/-! ### Configurations -/

/-- A resolved invocation. -/
structure Config where
  /-- What to do with the input. -/
  mode : Mode
  /-- The source file, which need not exist. -/
  input : Bytes
  /-- The path for the output. -/
  output : Bytes
  deriving DecidableEq, Repr

namespace Config

/-- The output path of an invocation that names none. -/
def defaultOutput : Bytes :=
  utf8 "output.out"

/-- The configuration of a stage and an input path without any setting. -/
def initial (stage : Stage) (input : Bytes) : Config where
  mode := stage.baseMode
  input := input
  output := defaultOutput

/-- The configuration after one more setting. -/
def apply (config : Config) : Setting → Config
  | .output path => { config with output := path }
  | .target chosen => { config with mode := .compile chosen }

/-- The configuration after a list of settings, from first to last. -/
def applyAll (config : Config) (settings : List Setting) : Config :=
  settings.foldl apply config

@[simp] theorem applyAll_nil (config : Config) : config.applyAll [] = config :=
  rfl

@[simp] theorem applyAll_cons (config : Config) (setting : Setting) (settings : List Setting) :
    config.applyAll (setting :: settings) = (config.apply setting).applyAll settings :=
  rfl

@[simp] theorem applyAll_append (config : Config) (first second : List Setting) :
    config.applyAll (first ++ second) = (config.applyAll first).applyAll second :=
  List.foldl_append

/-- The settings that spell out every field of a configuration that has a flag. -/
def settings (config : Config) : List Setting :=
  .output config.output :: (config.mode.target?.map Setting.target).toList

/-- The canonical command line of a configuration. -/
def commandLine (config : Config) : List Bytes :=
  config.mode.stage.keyword :: config.input :: config.settings.flatMap Setting.tokens

end Config

/-- The line that reports an invocation: what is done, from where and to where. -/
def summary (label input output : Bytes) : Bytes :=
  label ++ utf8 " " ++ input ++ utf8 " -> " ++ output

/-- The summary of a configuration. -/
def Config.summary (config : Config) : Bytes :=
  Invocation.summary config.mode.label config.input config.output

end Invocation
