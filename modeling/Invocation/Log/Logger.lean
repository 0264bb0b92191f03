import Invocation.Log.Record

/-!
# The logger

A logger writes the records that are at least as severe as its threshold. The threshold comes from
a setting, the value of an environment variable: the name of a level with any white space around
it. Where the setting is blank or names no level, warnings and what is more severe are written, and
a setting that names no level is reported once.
-/

set_option autoImplicit false
set_option relaxedAutoImplicit false

namespace Invocation

/-- What decides which records are written. -/
structure Logger where
  threshold : Level
  deriving DecidableEq, Repr

namespace Logger

/-- The logger of a setting that selects no level. -/
def fallback : Logger :=
  ⟨.warn⟩

/-- The record that reports a setting which names no level. -/
def ignoredSetting (value : Bytes) : Record where
  level := .warn
  message := utf8 "ignoring log level"
  fields := [⟨utf8 "env", utf8 Program.logVariable⟩, ⟨utf8 "value", value⟩]

/-- What a logger writes for a record: nothing when the record is below its threshold. -/
def textOf (logger : Logger) (record : Record) : Bytes :=
  if record.level.severity < logger.threshold.severity then [] else record.text

/-- The logger that a setting selects. -/
def ofSetting (setting : Bytes) : Logger :=
  match Level.ofName? (Text.trim setting) with
  | some level => ⟨level⟩
  | none => fallback

/-- What is written about a setting when its logger is made. -/
def notice (setting : Bytes) : Bytes :=
  let value := Text.trim setting
  if value = [] then []
  else match Level.ofName? value with
    | some _ => []
    | none => fallback.textOf (ignoredSetting value)

end Logger

end Invocation
