/-!
# Properties of characters given by ranges

A property of characters that a standard defines by a table is kept as a list of closed ranges of
code points. `covered` is the membership test that every such property shares.
-/

set_option autoImplicit false
set_option relaxedAutoImplicit false

namespace Invocation.Text

/-- Whether a character lies in one of the closed ranges. -/
def covered (ranges : List (Nat × Nat)) (c : Char) : Bool :=
  ranges.any fun range ↦ range.1 ≤ c.toNat && c.toNat ≤ range.2

theorem covered_iff {ranges : List (Nat × Nat)} {c : Char} :
    covered ranges c = true ↔ ∃ range ∈ ranges, range.1 ≤ c.toNat ∧ c.toNat ≤ range.2 := by
  simp [covered]

end Invocation.Text
