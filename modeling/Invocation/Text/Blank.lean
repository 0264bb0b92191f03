import Invocation.Text.Ranges
import Invocation.Text.Utf8

/-!
# Blank characters and trimming

The blank characters are those with the Unicode property White_Space. `trim` removes them at both
ends of a byte string. It works on characters: a stray byte is never blank, whatever its value, so
the bytes 85 and A0 outside an encoding end the trimming although U+0085 and U+00A0 are blank.
-/

set_option autoImplicit false
set_option relaxedAutoImplicit false

namespace Invocation.Text

/-- The code points with the property White_Space as closed ranges, ascending and apart. -/
def blankRanges : List (Nat × Nat) :=
  [(0x09, 0x0D), (0x20, 0x20), (0x85, 0x85), (0xA0, 0xA0), (0x1680, 0x1680), (0x2000, 0x200A),
   (0x2028, 0x2029), (0x202F, 0x202F), (0x205F, 0x205F), (0x3000, 0x3000)]

/-- Whether a character is white space. -/
def isBlank (c : Char) : Bool :=
  covered blankRanges c

/-- Whether a piece is a white space character. -/
def Piece.isBlank : Piece → Bool
  | char c => Text.isBlank c
  | stray _ => false

/-- The pieces without the blank ones at either end. -/
def trimPieces (list : List Piece) : List Piece :=
  ((list.dropWhile Piece.isBlank).reverse.dropWhile Piece.isBlank).reverse

/-- A byte string without the white space at either end. -/
def trim (bytes : Bytes) : Bytes :=
  (trimPieces (pieces bytes)).flatMap Piece.bytes

end Invocation.Text
