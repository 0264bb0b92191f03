/-!
# Numbered types

Callers that exchange values as plain numbers count the values of an enumeration from one, and
keep zero for the absence of a value. `Numbered` fixes the order in which the values are counted;
`Numbered.number` and `Numbered.ofNumber?` go from values to numbers and back. Every integer may be
asked for, also a negative or a far too large one. `ofNumber?_eq_some_iff` says that a value has one
number and that no other number finds it.
-/

set_option autoImplicit false
set_option relaxedAutoImplicit false

namespace Invocation

/-- A type with finitely many values that are counted in a fixed order. -/
class Numbered (α : Type) where
  /-- The values in the order in which they are counted. -/
  order : List α
  mem_order : ∀ value : α, value ∈ order
  nodup_order : order.Nodup

namespace Numbered

variable {α : Type} [DecidableEq α] [Numbered α]

/-- The number of a value, counted from one, or zero where there is none. -/
def number : Option α → Int
  | none => 0
  | some value => (order.idxOf value : Int) + 1

theorem number_some (value : α) : number (some value) = (order.idxOf value : Int) + 1 :=
  rfl

/-- The value with a number, if there is one. -/
def ofNumber? (n : Int) : Option α :=
  if n ≤ 0 then none else order[(n - 1).toNat]?

/-- A number finds a value exactly when it is the number of that value. -/
theorem ofNumber?_eq_some_iff {n : Int} {value : α} :
    ofNumber? n = some value ↔ n = number (some value) := by
  have hmem : order.idxOf value < (order : List α).length :=
    List.idxOf_lt_length_of_mem (mem_order value)
  rw [number_some]
  unfold ofNumber?
  constructor
  · intro hfound
    split at hfound
    · cases hfound
    · obtain ⟨hindex, hvalue⟩ := List.getElem?_eq_some_iff.mp hfound
      rw [← hvalue, nodup_order.idxOf_getElem _ hindex]
      omega
  · rintro rfl
    rw [if_neg (by omega)]
    have hindex : ((order.idxOf value : Int) + 1 - 1).toNat = order.idxOf value := by omega
    rw [hindex, List.getElem?_eq_getElem hmem, List.getElem_idxOf]

/-- The number of a value, or of no value, is read back as it was. -/
@[simp] theorem ofNumber?_number (value? : Option α) : ofNumber? (number value?) = value? := by
  cases value? with
  | none => rfl
  | some value => exact ofNumber?_eq_some_iff.mpr rfl

end Numbered

end Invocation
