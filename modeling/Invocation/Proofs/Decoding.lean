import Invocation.Proofs.PrintableText

/-!
# Characters are read where they are written

The reader of byte strings never refuses anything, so its cuts are its own decision. Two facts tie
them to the encoding. A byte string begins with a character exactly when it begins with the encoding
of that character (`leading?_eq_some_iff`). And the first byte of an encoding never stands inside
one (`Encodes`), so no character is read across the place where an encoding begins
(`pieces_append`).

Hence characters that are written one behind the other are read as those characters, in front of any
bytes (`pieces_chars_append`) and behind any bytes (`pieces_append_chars`), also where these are no
text. A byte string is read as characters only if it is their encoding
(`pieces_eq_map_char_iff`).
-/

set_option autoImplicit false
set_option relaxedAutoImplicit false

namespace Invocation.Text

/-! ### The form of an encoding -/

/-- Whether a byte can stand behind the first byte of an encoding. -/
def isContinuation (byte : UInt8) : Bool :=
  0x80 ≤ byte.toNat && byte.toNat < 0xC0

/-- A first byte and the bytes behind it as the encoding of a character. -/
structure Encodes (lead : UInt8) (tail : Bytes) (c : Char) : Prop where
  eq_cons : encodeChar c = lead :: tail
  not_isContinuation : isContinuation lead = false
  isContinuation : ∀ byte ∈ tail, isContinuation byte = true
  /-- What is spelled does not depend on what follows the encoding. -/
  spelled_append : ∀ rest, spelled lead (tail ++ rest) = c.toNat

theorem toUInt8_lt_iff {n : Nat} {bound : UInt8} (hbyte : n < 0x100) :
    n.toUInt8 < bound ↔ n < bound.toNat := by
  rw [UInt8.lt_iff_toNat_lt, toNat_toUInt8 hbyte]

theorem isContinuation_toUInt8 {n : Nat} (hbyte : n < 0x100) :
    isContinuation n.toUInt8 = true ↔ 0x80 ≤ n ∧ n < 0xC0 := by
  rw [isContinuation, toNat_toUInt8 hbyte, Bool.and_eq_true, decide_eq_true_eq, decide_eq_true_eq]

theorem not_isContinuation_toUInt8 {n : Nat} (hbyte : n < 0x100) (hout : n < 0x80 ∨ 0xC0 ≤ n) :
    isContinuation n.toUInt8 = false := by
  rw [Bool.eq_false_iff, ne_eq, isContinuation_toUInt8 hbyte]
  omega

/-- The bytes behind the first one carry six bits of the number each. -/
theorem isContinuation_sixBits (n : Nat) : isContinuation (0x80 + n % 0x40).toUInt8 = true := by
  rw [isContinuation_toUInt8 (by omega)]
  omega

theorem toNat_sixBits (n : Nat) : (0x80 + n % 0x40).toUInt8.toNat % 0x40 = n % 0x40 := by
  rw [toNat_toUInt8 (by omega)]
  omega

theorem encodes_one {c : Char} (hhigh : c.toNat < 0x80) : Encodes c.toNat.toUInt8 [] c where
  eq_cons := encodeChar_of_ascii hhigh
  not_isContinuation := not_isContinuation_toUInt8 (by omega) (by omega)
  isContinuation _ hmem := absurd hmem List.not_mem_nil
  spelled_append rest := by
    rw [spelled, if_pos ((toUInt8_lt_iff (by omega)).mpr hhigh), toNat_toUInt8 (by omega)]

theorem encodes_two {c : Char} (hlow : 0x80 ≤ c.toNat) (hhigh : c.toNat < 0x800) :
    Encodes (0xC0 + c.toNat / 0x40).toUInt8 [(0x80 + c.toNat % 0x40).toUInt8] c where
  eq_cons := by
    unfold encodeChar
    dsimp only
    rw [if_neg (by omega), if_pos hhigh]
  not_isContinuation := not_isContinuation_toUInt8 (by omega) (by omega)
  isContinuation := List.forall_mem_singleton.mpr (isContinuation_sixBits _)
  spelled_append rest := by
    rw [spelled, if_neg (mt (toUInt8_lt_iff (by omega)).mp (by omega : ¬ _ < 0x80)),
      if_pos ((toUInt8_lt_iff (by omega)).mpr (by omega : _ < 0xE0))]
    change (0xC0 + c.toNat / 0x40).toUInt8.toNat % 0x20 * 0x40 +
      (0x80 + c.toNat % 0x40).toUInt8.toNat % 0x40 = c.toNat
    rw [toNat_sixBits, toNat_toUInt8 (by omega)]
    omega

theorem encodes_three {c : Char} (hlow : 0x800 ≤ c.toNat) (hhigh : c.toNat < 0x10000) :
    Encodes (0xE0 + c.toNat / 0x1000).toUInt8
      [(0x80 + c.toNat / 0x40 % 0x40).toUInt8, (0x80 + c.toNat % 0x40).toUInt8] c where
  eq_cons := by
    unfold encodeChar
    dsimp only
    rw [if_neg (by omega), if_neg (by omega), if_pos hhigh]
  not_isContinuation := not_isContinuation_toUInt8 (by omega) (by omega)
  isContinuation := by
    simp only [List.forall_mem_cons, isContinuation_sixBits, List.not_mem_nil, false_implies,
      implies_true, and_true]
  spelled_append rest := by
    rw [spelled, if_neg (mt (toUInt8_lt_iff (by omega)).mp (by omega : ¬ _ < 0x80)),
      if_neg (mt (toUInt8_lt_iff (by omega)).mp (by omega : ¬ _ < 0xE0)),
      if_pos ((toUInt8_lt_iff (by omega)).mpr (by omega : _ < 0xF0))]
    change ((0xE0 + c.toNat / 0x1000).toUInt8.toNat % 0x10 * 0x40 +
      (0x80 + c.toNat / 0x40 % 0x40).toUInt8.toNat % 0x40) * 0x40 +
        (0x80 + c.toNat % 0x40).toUInt8.toNat % 0x40 = c.toNat
    rw [toNat_sixBits, toNat_sixBits, toNat_toUInt8 (by omega)]
    omega

theorem encodes_four {c : Char} (hlow : 0x10000 ≤ c.toNat) :
    Encodes (0xF0 + c.toNat / 0x40000).toUInt8
      [(0x80 + c.toNat / 0x1000 % 0x40).toUInt8, (0x80 + c.toNat / 0x40 % 0x40).toUInt8,
        (0x80 + c.toNat % 0x40).toUInt8] c := by
  have hbound := toNat_lt c
  refine ⟨?_, not_isContinuation_toUInt8 (by omega) (by omega), ?_, fun rest ↦ ?_⟩
  · unfold encodeChar
    dsimp only
    rw [if_neg (by omega), if_neg (by omega), if_neg (by omega)]
  · simp only [List.forall_mem_cons, isContinuation_sixBits, List.not_mem_nil, false_implies,
      implies_true, and_true]
  · rw [spelled, if_neg (mt (toUInt8_lt_iff (by omega)).mp (by omega : ¬ _ < 0x80)),
      if_neg (mt (toUInt8_lt_iff (by omega)).mp (by omega : ¬ _ < 0xE0)),
      if_neg (mt (toUInt8_lt_iff (by omega)).mp (by omega : ¬ _ < 0xF0))]
    change (((0xF0 + c.toNat / 0x40000).toUInt8.toNat % 0x08 * 0x40 +
      (0x80 + c.toNat / 0x1000 % 0x40).toUInt8.toNat % 0x40) * 0x40 +
        (0x80 + c.toNat / 0x40 % 0x40).toUInt8.toNat % 0x40) * 0x40 +
          (0x80 + c.toNat % 0x40).toUInt8.toNat % 0x40 = c.toNat
    rw [toNat_sixBits, toNat_sixBits, toNat_sixBits, toNat_toUInt8 (by omega)]
    omega

/-- Every character has an encoding of that form, in one to four bytes. -/
theorem exists_encodes (c : Char) : ∃ lead tail, Encodes lead tail c := by
  by_cases hone : c.toNat < 0x80
  · exact ⟨_, _, encodes_one hone⟩
  · by_cases htwo : c.toNat < 0x800
    · exact ⟨_, _, encodes_two (by omega) htwo⟩
    · by_cases hthree : c.toNat < 0x10000
      · exact ⟨_, _, encodes_three (by omega) hthree⟩
      · exact ⟨_, _, encodes_four (by omega)⟩

/-! ### Reading a character -/

/-- A byte string begins with a character exactly when it begins with its encoding. -/
theorem leading?_eq_some_iff {lead : UInt8} {rest : Bytes} {c : Char} :
    leading? lead rest = some c ↔ encodeChar c <+: lead :: rest := by
  constructor
  · exact starts_of_leading?
  · rintro ⟨more, hmore⟩
    obtain ⟨first, tail, hencodes⟩ := exists_encodes c
    rw [hencodes.eq_cons, List.cons_append] at hmore
    obtain ⟨rfl, rfl⟩ := List.cons.inj hmore
    have hstarts : encodeChar c <+: first :: (tail ++ more) := by
      rw [hencodes.eq_cons, ← List.cons_append]
      exact List.prefix_append _ _
    rw [leading?, hencodes.spelled_append, Char.ofNat_toNat]
    exact if_pos hstarts

theorem pieces_cons (byte : UInt8) (rest : Bytes) :
    pieces (byte :: rest) =
      (readPiece byte rest).1 :: pieces (rest.drop (readPiece byte rest).2) :=
  lexemes_cons readPiece byte rest

/-- A character is read from its encoding, whatever follows it. -/
theorem pieces_encodeChar_append (c : Char) (rest : Bytes) :
    pieces (encodeChar c ++ rest) = .char c :: pieces rest := by
  obtain ⟨lead, tail, hencodes⟩ := exists_encodes c
  have hleading : leading? lead (tail ++ rest) = some c := by
    rw [leading?_eq_some_iff, ← List.cons_append, ← hencodes.eq_cons]
    exact List.prefix_append _ _
  have hread : readPiece lead (tail ++ rest) = (.char c, tail.length) := by
    rw [readPiece, hleading]
    change (Piece.char c, (encodeChar c).length - 1) = _
    rw [hencodes.eq_cons]
    rfl
  rw [hencodes.eq_cons, List.cons_append, pieces_cons, hread, List.drop_left]

theorem pieces_chars_append (chars : List Char) (rest : Bytes) :
    pieces (chars.flatMap encodeChar ++ rest) = chars.map .char ++ pieces rest := by
  induction chars with
  | nil => rfl
  | cons c chars ih =>
    rw [List.flatMap_cons, List.append_assoc, pieces_encodeChar_append, ih]
    rfl

/-- A byte string is read as characters exactly when it is their encoding. -/
theorem pieces_eq_map_char_iff {bytes : Bytes} {chars : List Char} :
    pieces bytes = chars.map .char ↔ chars.flatMap encodeChar = bytes := by
  constructor
  · intro hpieces
    rw [← flatMap_bytes_pieces bytes, hpieces, List.flatMap_map]
    rfl
  · rintro rfl
    have hread := pieces_chars_append chars []
    rwa [List.append_nil, show pieces [] = [] from rfl, List.append_nil] at hread

/-! ### Reading across a seam -/

/-- Assumes: bytes behind the seam that do not begin inside an encoding. What stands in front of
them is read as if it stood alone. -/
theorem leading?_append {second : Bytes}
    (hseam : ∀ byte ∈ second.head?, isContinuation byte = false) (lead : UInt8) (rest : Bytes) :
    leading? lead (rest ++ second) = leading? lead rest := by
  refine Option.ext fun c ↦ ?_
  rw [leading?_eq_some_iff, leading?_eq_some_iff, ← List.cons_append]
  refine ⟨fun hstarts ↦ ?_, fun hstarts ↦ hstarts.trans (List.prefix_append _ _)⟩
  rcases List.prefix_or_prefix_of_prefix hstarts (List.prefix_append (lead :: rest) second) with
    hwithin | ⟨more, hmore⟩
  · exact hwithin
  · -- The encoding reaches over the seam by `more`, which begins like `second`.
    rw [← hmore, List.prefix_append_right_inj] at hstarts
    cases more with
    | nil =>
      exact ⟨[], by rw [List.append_nil, ← hmore, List.append_nil]⟩
    | cons byte more =>
      obtain ⟨first, tail, hencodes⟩ := exists_encodes c
      have htail : byte ∈ tail := by
        have heq := hmore.trans hencodes.eq_cons
        rw [List.cons_append] at heq
        rw [← (List.cons.inj heq).2]
        exact List.mem_append_right rest List.mem_cons_self
      obtain ⟨others, rfl⟩ := hstarts
      exact nomatch (hseam byte rfl).symm.trans (hencodes.isContinuation byte htail)

/-- A piece takes up no more bytes than there are. -/
theorem readPiece_le (byte : UInt8) (rest : Bytes) : (readPiece byte rest).2 ≤ rest.length := by
  unfold readPiece
  cases hleading : leading? byte rest with
  | none => exact Nat.zero_le _
  | some c =>
    have hlength := (starts_of_leading? hleading).length_le
    rw [List.length_cons] at hlength
    change (encodeChar c).length - 1 ≤ rest.length
    omega

/-- Assumes: bytes behind the seam that do not begin inside an encoding. The pieces of the whole are
those of its two parts. -/
theorem pieces_append {first second : Bytes}
    (hseam : ∀ byte ∈ second.head?, isContinuation byte = false) :
    pieces (first ++ second) = pieces first ++ pieces second := by
  induction hlength : first.length using Nat.strongRecOn generalizing first with
  | ind length ih =>
    cases first with
    | nil => rfl
    | cons byte rest =>
      have hread : readPiece byte (rest ++ second) = readPiece byte rest := by
        rw [readPiece, leading?_append hseam, readPiece]
      have hshorter : (rest.drop (readPiece byte rest).2).length < length := by
        rw [← hlength, List.length_drop, List.length_cons]
        omega
      rw [List.cons_append, pieces_cons, hread,
        List.drop_append_of_le_length (readPiece_le byte rest), ih _ hshorter rfl, pieces_cons,
        List.cons_append]

/-- Characters are read from their encoding, also behind bytes that are no text. -/
theorem pieces_append_chars (bytes : Bytes) (chars : List Char) :
    pieces (bytes ++ chars.flatMap encodeChar) = pieces bytes ++ chars.map .char := by
  have hseam : ∀ byte ∈ (chars.flatMap encodeChar).head?, isContinuation byte = false := by
    cases chars with
    | nil => exact fun _ hmem ↦ nomatch hmem
    | cons c chars =>
      obtain ⟨lead, tail, hencodes⟩ := exists_encodes c
      rw [List.flatMap_cons, hencodes.eq_cons]
      rintro byte ⟨⟩
      exact hencodes.not_isContinuation
  rw [pieces_append hseam, pieces_eq_map_char_iff.mpr rfl]

end Invocation.Text
