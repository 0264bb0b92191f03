import Invocation.Resolve

/-!
# Walking the arguments by position

The settings can also be read with a cursor that moves over the argument list by position and
builds the configuration as it goes. The walk is made in turns (`Walk.turn`). A turn tests whether
the cursor is still inside the list, visits the argument there and moves the cursor on by one. The
visit itself moves it by one too, when it has taken a value (`Cursor.visit`).

A walk keeps a record of what it does: the positions at which it tests for the end of the list and
the positions at which it reads an argument. Every argument comes from `Reading.argument`, which
enters its position in the record, and a position outside the list ends the walk `astray`. A turn
says nothing about the turns after it, so nothing here says that a walk ends.
-/

set_option autoImplicit false
set_option relaxedAutoImplicit false

namespace Invocation

/-! ### Reading by position -/

/-- How a walk over the arguments ends. -/
inductive Ending where
  /-- The cursor left the list at a position with a configuration. -/
  | arrived (position : Nat) (config : Config)
  /-- An argument was refused. -/
  | refused (failure : Failure)
  /-- An argument was read at a position outside the list. -/
  | astray (position : Nat)
  deriving DecidableEq, Repr

/-- Something that is found out by reading arguments: the positions that are read for it, in order,
and what it is, unless the walk ends there. -/
structure Reading (α : Type) where
  reads : List Nat
  result : Except Ending α

instance : Monad Reading where
  pure value := ⟨[], .ok value⟩
  bind reading next :=
    match reading.result with
    | .error ending => ⟨reading.reads, .error ending⟩
    | .ok value => ⟨reading.reads ++ (next value).reads, (next value).result⟩

namespace Reading

variable {α β : Type}

/-- The argument at a position. -/
def argument (arguments : List Bytes) (position : Nat) : Reading Bytes where
  reads := [position]
  result :=
    match arguments[position]? with
    | none => .error (.astray position)
    | some token => .ok token

/-- What is known without reading. A failure ends the walk. -/
def verdict : Except Failure α → Reading α
  | .error failure => ⟨[], .error (.refused failure)⟩
  | .ok value => ⟨[], .ok value⟩

theorem bind_ok (reads : List Nat) (value : α) (next : α → Reading β) :
    (⟨reads, .ok value⟩ : Reading α) >>= next =
      ⟨reads ++ (next value).reads, (next value).result⟩ :=
  rfl

theorem bind_error (reads : List Nat) (ending : Ending) (next : α → Reading β) :
    (⟨reads, .error ending⟩ : Reading α) >>= next = ⟨reads, .error ending⟩ :=
  rfl

/-- Inside the list there is an argument to read. -/
theorem argument_of_lt {arguments : List Bytes} {position : Nat}
    (hinside : position < arguments.length) :
    argument arguments position = ⟨[position], .ok arguments[position]⟩ := by
  rw [argument, List.getElem?_eq_getElem hinside]

end Reading

/-! ### Turns -/

namespace Cursor

open Reading

/-- The value of the flag at a position. -/
def valueBehind (arguments : List Bytes) (position : Nat) (flag : Flag) : Reading Bytes :=
  if position + 1 ≥ arguments.length then do
    -- The flag is read again for the token to blame, and once more for the message.
    let _ ← argument arguments position
    let _ ← argument arguments position
    verdict (.error (.missingValue flag))
  else argument arguments (position + 1)

/-- The visit to a position, with the configuration built so far: the flag there and its value
become a setting, and the cursor moves to the value. -/
def visit (stage : Stage) (arguments : List Bytes) (position : Nat) (config : Config) :
    Reading (Nat × Config) := do
  let token ← argument arguments position
  let flag ← verdict (readFlag stage token)
  let value ← valueBehind arguments position flag
  let setting ← verdict (readValue value flag)
  return (position + 1, config.apply setting)

end Cursor

/-- Where a walk stands between two turns. -/
inductive Place where
  /-- The cursor is at a position that is to be tested next, with the configuration built so far. -/
  | testing (position : Nat) (config : Config)
  | ended (ending : Ending)
  deriving DecidableEq, Repr

/-- A walk over the arguments so far. -/
structure Walk where
  /-- The positions at which the end of the list was tested, in order. -/
  tests : List Nat
  /-- The positions at which an argument was read, in order. -/
  reads : List Nat
  place : Place
  deriving DecidableEq, Repr

namespace Walk

/-- The walk behind a keyword and an input path, before its first turn. -/
def start (stage : Stage) (input : Bytes) : Walk where
  tests := []
  reads := []
  place := .testing 2 (Config.initial stage input)

/-- A walk after one more turn. A walk that has ended stays as it is. -/
def turn (stage : Stage) (arguments : List Bytes) (walk : Walk) : Walk :=
  match walk.place with
  | .ended _ => walk
  | .testing position config =>
    if position < arguments.length then
      let visit := Cursor.visit stage arguments position config
      { tests := walk.tests ++ [position]
        reads := walk.reads ++ visit.reads
        place :=
          match visit.result with
          | .error ending => .ended ending
          | .ok (reached, config) => .testing (reached + 1) config }
    else { walk with tests := walk.tests ++ [position], place := .ended (.arrived position config) }

/-- A walk after a number of turns. -/
def turned (stage : Stage) (arguments : List Bytes) (walk : Walk) : Nat → Walk
  | 0 => walk
  | turns + 1 => (turned stage arguments walk turns).turn stage arguments

end Walk

end Invocation
