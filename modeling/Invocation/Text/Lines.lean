import Invocation.Text.Utf8

/-!
# Lines

A byte string is cut at its newline bytes. `lines` keeps what stands between them, also where that
is empty, so there is always one line more than there are newlines; `intercalate_lines` says that
the lines with a newline between any two are the byte string again.
-/

set_option autoImplicit false
set_option relaxedAutoImplicit false

namespace Invocation.Text

/-- The byte that ends a line. -/
def newline : UInt8 :=
  0x0A

/-- A first line extended at the front by one byte. -/
def extendFirst (byte : UInt8) : List Bytes → List Bytes
  | [] => [[byte]]
  | line :: others => (byte :: line) :: others

/-- What stands before, between and after the newlines of a byte string. -/
def lines : Bytes → List Bytes
  | [] => [[]]
  | byte :: rest => if byte = newline then [] :: lines rest else extendFirst byte (lines rest)

/-- There is at least one line. -/
theorem lines_ne_nil (bytes : Bytes) : lines bytes ≠ [] := by
  cases bytes with
  | nil => simp [lines]
  | cons byte rest =>
    unfold lines
    split
    · simp
    · cases lines rest <;> simp [extendFirst]

/-- The lines of a byte string with newlines between them are that byte string. -/
theorem intercalate_lines (bytes : Bytes) : [newline].intercalate (lines bytes) = bytes := by
  induction bytes with
  | nil => rfl
  | cons byte rest ih =>
    unfold lines
    cases hlines : lines rest with
    | nil => exact absurd hlines (lines_ne_nil rest)
    | cons line others =>
      rw [hlines] at ih
      split
      · next hnewline =>
        rw [List.intercalate_cons_cons, ih, hnewline]
        rfl
      · cases others with
        | nil => simpa [extendFirst] using ih
        | cons next others =>
          rw [List.intercalate_cons_cons] at ih
          simp [extendFirst, List.intercalate_cons_cons, ← ih]

end Invocation.Text
