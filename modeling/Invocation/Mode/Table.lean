import Invocation.Mode

/-!
# Modes, stages and targets by number

What is known of a mode, a stage or a target that is given by its number only. A number that
belongs to none is shown as `unknown`, and zero is the answer where there is nothing to give.
-/

set_option autoImplicit false
set_option relaxedAutoImplicit false

namespace Invocation

/-- What is shown for a number that belongs to nothing. -/
def unknownLabel : Bytes :=
  utf8 "unknown"

namespace Mode

/-- Whether a number belongs to a mode. -/
def isNumber (n : Int) : Bool :=
  (Numbered.ofNumber? n : Option Mode).isSome

/-- The label of the mode with a number. -/
def labelAt (n : Int) : Bytes :=
  ((Numbered.ofNumber? n).map label).getD unknownLabel

/-- The stage of the mode with a number. -/
def stageAt? (n : Int) : Option Stage :=
  (Numbered.ofNumber? n).map stage

/-- The target of the mode with a number, if it compiles. -/
def targetAt? (n : Int) : Option Target :=
  (Numbered.ofNumber? n).bind target?

end Mode

/-- The keyword of the stage with a number. -/
def Stage.keywordAt (n : Int) : Bytes :=
  ((Numbered.ofNumber? n).map keyword).getD unknownLabel

namespace Target

/-- The name of the target with a number. -/
def nameAt (n : Int) : Bytes :=
  ((Numbered.ofNumber? n).map name).getD unknownLabel

/-- The mode that compiles for the target with a number. -/
def modeAt? (n : Int) : Option Mode :=
  (Numbered.ofNumber? n).map Mode.compile

/-- The file name ending of the target with a number. -/
def extensionAt (n : Int) : Bytes :=
  ((Numbered.ofNumber? n).map extension).getD []

end Target

end Invocation
