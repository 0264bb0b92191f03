import Invocation.Text.Utf8

/-!
# Log levels

Levels are ordered by severity. A level is selected by its name in letters of either case: a name
is compared after `smallLetter` has been applied to each of its characters. Two characters beyond
ASCII have a small form that is an ASCII letter, the dotted capital I and the Kelvin sign; every
other one stays what it is, and a stray byte is no letter.
-/

set_option autoImplicit false
set_option relaxedAutoImplicit false

namespace Invocation

/-- How serious a log record is. -/
inductive Level where
  | debug
  | info
  | warn
  | error
  | fatal
  deriving DecidableEq, Repr

/-- The ASCII letter that is the small form of a character, or else the character itself. -/
def Text.smallLetter (c : Char) : Char :=
  if 'A' ≤ c ∧ c ≤ 'Z' then Char.ofNat (c.toNat + 0x20)
  else if c = '\u0130' then 'i'
  else if c = '\u212A' then 'k'
  else c

namespace Level

/-- The levels, the least severe first. -/
def all : List Level :=
  [debug, info, warn, error, fatal]

/-- The number by which severities are compared. -/
def severity : Level → Int
  | debug => -4
  | info => 0
  | warn => 4
  | error => 8
  | fatal => 12

/-- The name that selects a level. -/
def name : Level → String
  | debug => "debug"
  | info => "info"
  | warn => "warn"
  | error => "error"
  | fatal => "fatal"

/-- The four letters at the front of a record. -/
def tag : Level → Bytes
  | debug => utf8 "DEBU"
  | info => utf8 "INFO"
  | warn => utf8 "WARN"
  | error => utf8 "ERRO"
  | fatal => utf8 "FATA"

/-- The level whose name a text spells in letters of either case. -/
def ofName? (text : Bytes) : Option Level :=
  let spelling := (Text.pieces text).map fun piece ↦ Text.smallLetter piece.shown
  all.find? (·.name.toList = spelling)

end Level

end Invocation
