import Invocation.Text.Lexeme

/-!
# Characters and stray bytes

A byte string is read as UTF-8 without ever being refused: `pieces` cuts it into characters and
stray bytes, a stray byte being one that begins no well-formed encoding. `encodeChar` gives the
encoding of a character in its shortest form. The reader computes the only code point that the
bytes at hand could spell and accepts it exactly when its encoding is what stands there
(`leading?`), so overlong forms, surrogates, values above U+10FFFF and truncated sequences all fail
the one test, and `flatMap_bytes_pieces` holds: the pieces of a byte string spell it again, byte
for byte.

`utf8` turns the fixed texts of the program into bytes.
-/

set_option autoImplicit false
set_option relaxedAutoImplicit false

namespace Invocation

namespace Text

/-- The byte that encodes a character below U+0080. -/
def ascii (c : Char) : UInt8 :=
  c.toNat.toUInt8

/-- The UTF-8 encoding of a character, in one to four bytes. -/
def encodeChar (c : Char) : Bytes :=
  let n := c.toNat
  if n < 0x80 then [n.toUInt8]
  else if n < 0x800 then [(0xC0 + n / 0x40).toUInt8, (0x80 + n % 0x40).toUInt8]
  else if n < 0x10000 then
    [(0xE0 + n / 0x1000).toUInt8, (0x80 + n / 0x40 % 0x40).toUInt8, (0x80 + n % 0x40).toUInt8]
  else
    [(0xF0 + n / 0x40000).toUInt8, (0x80 + n / 0x1000 % 0x40).toUInt8,
      (0x80 + n / 0x40 % 0x40).toUInt8, (0x80 + n % 0x40).toUInt8]

/-- The number that the payload bits of continuation bytes add to a value already read. -/
def continued (value : Nat) (tail : Bytes) : Nat :=
  tail.foldl (fun sum byte ↦ sum * 0x40 + byte.toNat % 0x40) value

/-- The only code point that bytes beginning with `lead` could spell. The first byte says how many
bytes to look at; whether they really are an encoding is not decided here. -/
def spelled (lead : UInt8) (rest : Bytes) : Nat :=
  if lead < 0x80 then lead.toNat
  else if lead < 0xE0 then continued (lead.toNat % 0x20) (rest.take 1)
  else if lead < 0xF0 then continued (lead.toNat % 0x10) (rest.take 2)
  else continued (lead.toNat % 0x08) (rest.take 3)

/-- The character whose encoding the bytes begin with, if there is one. -/
def leading? (lead : UInt8) (rest : Bytes) : Option Char :=
  let c := Char.ofNat (spelled lead rest)
  if encodeChar c <+: lead :: rest then some c else none

/-- A unit of a byte string: a character, or a byte that belongs to no character. -/
inductive Piece where
  | char (c : Char)
  | stray (byte : UInt8)
  deriving DecidableEq, Repr

namespace Piece

/-- The bytes that a piece stands for. -/
def bytes : Piece → Bytes
  | char c => encodeChar c
  | stray byte => [byte]

/-- The character that a piece shows: a stray byte shows the replacement character U+FFFD. -/
def shown : Piece → Char
  | char c => c
  | stray _ => '\uFFFD'

end Piece

/-- The piece at the front, and how many further bytes it takes up. -/
def readPiece (byte : UInt8) (rest : Bytes) : Piece × Nat :=
  match leading? byte rest with
  | some c => (.char c, (encodeChar c).length - 1)
  | none => (.stray byte, 0)

/-- A byte string as characters and stray bytes. -/
def pieces (bytes : Bytes) : List Piece :=
  lexemes readPiece 0 bytes

/-- Every encoding has a first byte. -/
theorem encodeChar_ne_nil (c : Char) : encodeChar c ≠ [] := by
  unfold encodeChar
  dsimp only
  repeat' split
  all_goals simp

/-- A character that leads spells the bytes it was read from. -/
theorem starts_of_leading? {lead : UInt8} {rest : Bytes} {c : Char}
    (hleading : leading? lead rest = some c) : encodeChar c <+: lead :: rest := by
  unfold leading? at hleading
  dsimp only at hleading
  split at hleading
  · next h =>
    cases hleading
    exact h
  · cases hleading

/-- The piece at the front spells the first byte and the bytes that it takes up. -/
theorem bytes_readPiece (byte : UInt8) (rest : Bytes) :
    (readPiece byte rest).1.bytes ++ rest.drop (readPiece byte rest).2 = byte :: rest := by
  unfold readPiece
  cases hleading : leading? byte rest with
  | none => rfl
  | some c =>
    obtain ⟨tail, htail⟩ := starts_of_leading? hleading
    cases hencoded : encodeChar c with
    | nil => exact absurd hencoded (encodeChar_ne_nil c)
    | cons first others =>
      rw [hencoded, List.cons_append] at htail
      obtain ⟨rfl, rfl⟩ := List.cons.inj htail
      simp [Piece.bytes, hencoded]

/-- Reading loses nothing: the pieces of a byte string spell it again. -/
theorem flatMap_bytes_pieces (bytes : Bytes) : (pieces bytes).flatMap Piece.bytes = bytes := by
  unfold pieces
  induction hlength : bytes.length using Nat.strongRecOn generalizing bytes with
  | ind length ih =>
    cases bytes with
    | nil => rfl
    | cons byte rest =>
      rw [lexemes_cons, List.flatMap_cons,
        ih _ (by simp at hlength ⊢; omega) (rest.drop (readPiece byte rest).2) rfl,
        bytes_readPiece]

end Text

/-- The bytes of a fixed text. -/
def utf8 (text : String) : Bytes :=
  text.toList.flatMap Text.encodeChar

end Invocation
