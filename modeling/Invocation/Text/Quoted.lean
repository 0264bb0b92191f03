import Invocation.Text.Escape

/-!
# Quoted tokens

`quote` writes a token between quotation marks so that it is one line of printable text, whatever
bytes it holds: quotation marks and backslashes stand behind a backslash, other characters that are
not printable become escapes, and a stray byte becomes a two-digit escape of its value.
`unescape` reads the text between the marks back. It knows every escape that `quote` writes and
takes all else verbatim.
-/

set_option autoImplicit false
set_option relaxedAutoImplicit false

namespace Invocation.Text

/-- The style of a quoted token: both marks protected, U+007F in two digits, and a stray byte by
its value. -/
def quotedStyle : Style where
  marks := ['"', '\\']
  shortDelete := true
  stray byte := numbered 'x' 2 byte.toNat

/-- A byte string between quotation marks, as one line of printable text. -/
def quote (bytes : Bytes) : Bytes :=
  ascii '"' :: quotedStyle.write bytes ++ [ascii '"']

/-! ### Reading back -/

/-- The value of a hexadecimal digit with a small letter. -/
def hexValue (digit : UInt8) : Nat :=
  if digit < 0x61 then digit.toNat - 0x30 else digit.toNat - 0x57

/-- The number that hexadecimal digits spell. -/
def hexNumber (digits : Bytes) : Nat :=
  digits.foldl (fun sum digit ↦ sum * 0x10 + hexValue digit) 0

/-- The control character that a letter behind a backslash stands for. -/
def letterControl? (letter : UInt8) : Option UInt8 :=
  if letter = ascii 'a' then some 0x07
  else if letter = ascii 'b' then some 0x08
  else if letter = ascii 'f' then some 0x0C
  else if letter = ascii 'n' then some 0x0A
  else if letter = ascii 'r' then some 0x0D
  else if letter = ascii 't' then some 0x09
  else if letter = ascii 'v' then some 0x0B
  else none

/-- The bytes that the text at the front stands for, and how many further bytes of the text that
takes up. -/
def readEscape (byte : UInt8) (rest : Bytes) : Bytes × Nat :=
  if byte ≠ ascii '\\' then ([byte], 0)
  else match rest with
    | [] => ([byte], 0)
    | letter :: digits =>
      if letter = ascii 'x' then ([(hexNumber (digits.take 2)).toUInt8], 3)
      else if letter = ascii 'u' then (encodeChar (Char.ofNat (hexNumber (digits.take 4))), 5)
      else if letter = ascii 'U' then (encodeChar (Char.ofNat (hexNumber (digits.take 8))), 9)
      else match letterControl? letter with
        | some control => ([control], 1)
        | none => ([letter], 1)

/-- The bytes that an escaped text stands for. -/
def unescape (text : Bytes) : Bytes :=
  (lexemes readEscape 0 text).flatten

/-- The text between the first and the last byte, where the quotation marks of `quote` stand. -/
def between (text : Bytes) : Bytes :=
  (text.drop 1).dropLast

end Invocation.Text
