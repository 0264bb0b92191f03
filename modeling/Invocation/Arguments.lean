import Invocation.Resolve

/-!
# Editing an argument list

An interactive caller keeps an argument list and resolves it again after every change. Positions
are integers as the caller gives them; an edit at a position that the list does not have changes
nothing.
-/

set_option autoImplicit false
set_option relaxedAutoImplicit false

namespace Invocation

/-- A change to an argument list. -/
inductive Edit where
  | push (value : Bytes)
  | pop
  | clear
  | replace (position : Int) (value : Bytes)
  | insert (position : Int) (value : Bytes)
  | remove (position : Int)
  deriving DecidableEq, Repr

namespace Edit

/-- The argument list after a change. -/
def apply (args : List Bytes) : Edit → List Bytes
  | push value => args ++ [value]
  | pop => args.dropLast
  | clear => []
  | replace position value => if position < 0 then args else args.set position.toNat value
  | insert position value =>
    if position < 0 ∨ args.length < position then args
    else args.take position.toNat ++ value :: args.drop position.toNat
  | remove position => if position < 0 then args else args.eraseIdx position.toNat

/-- The argument list, and what it is after each of a list of changes. -/
def history (args : List Bytes) : List Edit → List (List Bytes)
  | [] => [args]
  | edit :: edits => args :: history (edit.apply args) edits

end Edit

/-- What an argument list resolves to at first and after each change. -/
def resolveAlong (args : List Bytes) (edits : List Edit) : List (Except Refusal Config) :=
  (Edit.history args edits).map resolve

end Invocation
