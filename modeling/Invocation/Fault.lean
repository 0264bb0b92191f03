import Invocation.Failure

/-!
# Faults and what is wrapped around them

A fault is an error on its way to the user: the request for help, a diagnostic, or an error of
another part of the system that is known by its text only. Callers wrap it to say what they were
doing. A wrap that adds context or a trace keeps the cause visible; an enclosure hides it from
`Fault.cause`, and whatever is wrapped around an enclosure does not bring it back. The request for
help is recognised behind every wrap (`Fault.isHelp`), and it is recognised by what it is, not by
its text.

Where nothing went wrong there is no fault, and wrapping leaves it so (`wrapAll_none`).
-/

set_option autoImplicit false
set_option relaxedAutoImplicit false

namespace Invocation

/-- What a caller puts around a fault. -/
inductive Wrap where
  /-- A note in front of the text; the cause stays visible. -/
  | context (note : Bytes)
  /-- Nothing that shows; the cause stays visible. -/
  | trace
  /-- A note in front of the text; the cause is hidden. -/
  | enclosure (note : Bytes)
  deriving DecidableEq, Repr

namespace Wrap

/-- Whether the cause of a fault can be seen through a wrap. -/
def isTransparent : Wrap → Bool
  | context _ => true
  | trace => true
  | enclosure _ => false

/-- The note that a wrap puts in front of the text. -/
def note? : Wrap → Option Bytes
  | context note => some note
  | trace => none
  | enclosure note => some note

/-- The text in front of the text of what is wrapped. -/
def heading (wrap : Wrap) : Bytes :=
  match wrap.note? with
  | some note => note ++ utf8 ": "
  | none => []

end Wrap

/-- An error on its way to the user. -/
inductive Fault where
  /-- The usage text was asked for. -/
  | help
  | diagnostic (found : Diagnostic)
  /-- An error of another part of the system. -/
  | foreign (text : Bytes)
  | wrapped (wrap : Wrap) (inner : Fault)
  deriving DecidableEq, Repr

namespace Fault

/-- The fault under all the wraps that let it be seen, from the outside in. -/
def cause : Fault → Fault
  | wrapped wrap inner => if wrap.isTransparent then cause inner else wrapped wrap inner
  | fault => fault

/-- The kind of the diagnostic that is the cause of a fault, if it is one. -/
def kind? (fault : Fault) : Option Int :=
  match fault.cause with
  | diagnostic found => some found.kind
  | _ => none

/-- Whether a fault is the request for help, whatever is wrapped around it. -/
def isHelp : Fault → Bool
  | help => true
  | wrapped _ inner => isHelp inner
  | _ => false

/-- The text of a fault. -/
def message : Fault → Bytes
  | help => utf8 "help requested"
  | diagnostic found => found.message
  | foreign text => text
  | wrapped wrap inner => wrap.heading ++ message inner

end Fault

/-- The fault that a refusal is reported as. -/
def Refusal.fault : Refusal → Fault
  | help => .help
  | malformed failure => .diagnostic failure.diagnostic

/-- The fault of an outcome, if it is not a success. -/
def faultOf {α : Type} : Except Refusal α → Option Fault
  | .ok _ => none
  | .error refusal => some refusal.fault

/-- A fault after one more wrap. -/
def wrapOne (fault? : Option Fault) (wrap : Wrap) : Option Fault :=
  fault?.map (Fault.wrapped wrap)

/-- A fault after a list of wraps, the first one innermost. -/
def wrapAll (fault? : Option Fault) (wraps : List Wrap) : Option Fault :=
  wraps.foldl wrapOne fault?

/-- A fault, and what it is after each of a list of wraps. -/
def wrapHistory (fault? : Option Fault) : List Wrap → List (Option Fault)
  | [] => [fault?]
  | wrap :: wraps => fault? :: wrapHistory (wrapOne fault? wrap) wraps

@[simp] theorem wrapAll_none (wraps : List Wrap) : wrapAll none wraps = none := by
  induction wraps with
  | nil => rfl
  | cons wrap wraps ih => exact ih

/-- What a caller can tell about the outcome of a call. -/
structure Classification where
  /-- The kind of the diagnostic behind it. -/
  kind? : Option Int
  isHelp : Bool
  /-- The text, unless nothing went wrong. -/
  message? : Option Bytes
  deriving DecidableEq, Repr

/-- What can be told about a fault, or about the absence of one. -/
def classify (fault? : Option Fault) : Classification where
  kind? := fault?.bind Fault.kind?
  isHelp := fault?.any Fault.isHelp
  message? := fault?.map Fault.message

/-- The number of the kind, or zero where there is none. -/
def Classification.kindNumber (classification : Classification) : Int :=
  classification.kind?.getD 0

end Invocation
