import Invocation.Text.Printable
import Invocation.Text.Utf8

/-!
# Escapes

An escape writes a character that may not stand for itself as a backslash and ASCII letters or
digits. The order of preference is the same wherever the program escapes: a mark that the
surrounding text uses is protected by a backslash, a printable character stands for itself, seven
control characters have a letter, and the rest are written by their number in two, four or eight
hexadecimal digits. Where texts differ is a `Style`: which marks need protection, whether U+007F
counts among the characters with two digits, and what is written for a stray byte.
-/

set_option autoImplicit false
set_option relaxedAutoImplicit false

namespace Invocation.Text

/-- The hexadecimal digit of a number below sixteen, with small letters. -/
def hexDigit (n : Nat) : UInt8 :=
  if n < 10 then (0x30 + n).toUInt8 else (0x57 + n).toUInt8

/-- The last `width` hexadecimal digits of a number, leading zeros included. -/
def hexadecimal : Nat → Nat → Bytes
  | 0, _ => []
  | width + 1, n => hexadecimal width (n / 0x10) ++ [hexDigit (n % 0x10)]

/-- The letter that stands for a control character behind a backslash. -/
def controlLetter? (c : Char) : Option Char :=
  match c.toNat with
  | 0x07 => some 'a'
  | 0x08 => some 'b'
  | 0x0C => some 'f'
  | 0x0A => some 'n'
  | 0x0D => some 'r'
  | 0x09 => some 't'
  | 0x0B => some 'v'
  | _ => none

/-- A backslash, a letter that tells the width, and the number of a character. -/
def numbered (letter : Char) (width n : Nat) : Bytes :=
  ascii '\\' :: ascii letter :: hexadecimal width n

/-- What a kind of escaped text decides for itself. -/
structure Style where
  /-- The marks that stand behind a backslash although they are printable. -/
  marks : List Char
  /-- Whether U+007F is written in two digits like the control characters below U+0020. -/
  shortDelete : Bool
  /-- What is written for a byte that belongs to no character. -/
  stray : UInt8 → Bytes

namespace Style

/-- A character as it is written in a style. -/
def writeChar (style : Style) (c : Char) : Bytes :=
  if c ∈ style.marks then ascii '\\' :: encodeChar c
  else if isPrintable c then encodeChar c
  else match controlLetter? c with
    | some letter => [ascii '\\', ascii letter]
    | none =>
      if c.toNat < 0x20 ∨ (style.shortDelete ∧ c.toNat = 0x7F) then numbered 'x' 2 c.toNat
      else if c.toNat < 0x10000 then numbered 'u' 4 c.toNat
      else numbered 'U' 8 c.toNat

/-- A piece as it is written in a style. -/
def writePiece (style : Style) : Piece → Bytes
  | .char c => style.writeChar c
  | .stray byte => style.stray byte

/-- A byte string as it is written in a style. -/
def write (style : Style) (bytes : Bytes) : Bytes :=
  (pieces bytes).flatMap style.writePiece

end Style

end Invocation.Text
