import Invocation.Text.Utf8

/-!
# Decimal numbers

An integer in text is written in decimal with the fewest digits, behind a minus sign when it is
negative.
-/

set_option autoImplicit false
set_option relaxedAutoImplicit false

namespace Invocation.Text

/-- An integer in decimal. -/
def decimal (n : Int) : Bytes :=
  (if n < 0 then utf8 "-" else []) ++ (Nat.toDigits 10 n.natAbs).flatMap encodeChar

end Invocation.Text
