/-!
# Cutting bytes into lexemes

Command lines, environment values and log values are byte strings that need not be text in any
encoding. Everything that reads them does so one lexeme at a time: a rule looks at the first byte
and at what follows it, and answers with the lexeme and with the number of further bytes that the
lexeme takes up. `lexemes` applies such a rule from left to right. The bytes that belong to a
lexeme already read are passed over by a counter, so the recursion is on the bytes themselves and
needs no measure; `lexemes_skip` says that passing over bytes is dropping them.
-/

set_option autoImplicit false
set_option relaxedAutoImplicit false

namespace Invocation

/-- A byte string: an argument, a path, a message or the contents of a stream. -/
abbrev Bytes := List UInt8

namespace Text

variable {α : Type}

/-- The lexemes of a byte string, after its first `skip` bytes. The rule `read` is given a byte and
the bytes after it, and returns a lexeme and how many of the bytes after it the lexeme takes up. -/
def lexemes (read : UInt8 → Bytes → α × Nat) : Nat → Bytes → List α
  | _, [] => []
  | skip + 1, _ :: rest => lexemes read skip rest
  | 0, byte :: rest => (read byte rest).1 :: lexemes read (read byte rest).2 rest

@[simp] theorem lexemes_nil (read : UInt8 → Bytes → α × Nat) (skip : Nat) :
    lexemes read skip [] = [] := by
  cases skip <;> rfl

/-- Bytes that belong to a lexeme already read are dropped. -/
theorem lexemes_skip (read : UInt8 → Bytes → α × Nat) (skip : Nat) (bytes : Bytes) :
    lexemes read skip bytes = lexemes read 0 (bytes.drop skip) := by
  induction bytes generalizing skip with
  | nil => simp
  | cons byte rest ih =>
    cases skip with
    | zero => rfl
    | succ skip => exact ih skip

/-- The first lexeme, followed by those of what it leaves. -/
theorem lexemes_cons (read : UInt8 → Bytes → α × Nat) (byte : UInt8) (rest : Bytes) :
    lexemes read 0 (byte :: rest) =
      (read byte rest).1 :: lexemes read 0 (rest.drop (read byte rest).2) := by
  rw [← lexemes_skip]
  rfl

end Text

end Invocation
