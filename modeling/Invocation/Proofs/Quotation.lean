import Invocation.Proofs.PrintableText

/-!
# Quoted tokens are read back

Whatever bytes a token holds, `unescape` finds them again in what `quote` writes between its marks
(`unescape_write`). The two work on different units: `quote` writes the pieces of the token one by
one, and `unescape` reads one escape or one verbatim byte at a time. They meet in `StandsFor`: a
text stands for bytes if reading it gives those bytes whatever follows. What a piece is written as
stands for the bytes of the piece (`standsFor_writePiece`), and texts that stand for bytes may be
put one behind the other.

In a longer text whose other parts hold no quotation mark, the quoted token is found between the
first mark and the last (`quotedPart_quote`), even if the token holds such marks itself, and can be
read back from there (`unescape_quotedPart`).
-/

set_option autoImplicit false
set_option relaxedAutoImplicit false

namespace Invocation.Text

/-! ### Reading a text in front of others -/

/-- Whether a text is read as certain bytes, whatever stands behind it. -/
def StandsFor (text bytes : Bytes) : Prop :=
  ∀ rest, unescape (text ++ rest) = bytes ++ unescape rest

namespace StandsFor

theorem nil : StandsFor [] [] :=
  fun _ ↦ rfl

theorem append {first second front back : Bytes} (hfirst : StandsFor first front)
    (hsecond : StandsFor second back) : StandsFor (first ++ second) (front ++ back) := by
  intro rest
  rw [List.append_assoc, hfirst, hsecond, List.append_assoc]

theorem flatMap {α : Type} {list : List α} {write mean : α → Bytes}
    (hwrite : ∀ item ∈ list, StandsFor (write item) (mean item)) :
    StandsFor (list.flatMap write) (list.flatMap mean) := by
  induction list with
  | nil => exact nil
  | cons item list ih =>
    obtain ⟨hitem, hlist⟩ := List.forall_mem_cons.mp hwrite
    exact hitem.append (ih hlist)

theorem unescape_eq {text bytes : Bytes} (hstands : StandsFor text bytes) :
    unescape text = bytes := by
  have hwhole := hstands []
  rwa [List.append_nil, show unescape [] = [] from rfl, List.append_nil] at hwhole

end StandsFor

/-- One step of reading: the bytes at the front, and then what they leave. -/
theorem unescape_cons (byte : UInt8) (rest : Bytes) :
    unescape (byte :: rest) =
      (readEscape byte rest).1 ++ unescape (rest.drop (readEscape byte rest).2) := by
  rw [unescape, lexemes_cons, List.flatten_cons, unescape]

/-! ### Verbatim text -/

/-- Assumes: a byte that is no backslash. It stands for itself. -/
theorem standsFor_byte {byte : UInt8} (hbyte : byte ≠ ascii '\\') : StandsFor [byte] [byte] := by
  intro rest
  have hread : readEscape byte rest = ([byte], 0) := if_pos hbyte
  rw [List.singleton_append, unescape_cons, hread, List.drop_zero]

/-- Assumes: a text without a backslash. It stands for itself. -/
theorem standsFor_verbatim {text : Bytes} (hbackslash : ascii '\\' ∉ text) :
    StandsFor text text := by
  have hbytes : StandsFor (text.flatMap ([·])) (text.flatMap ([·])) := by
    refine StandsFor.flatMap fun byte hmem ↦ standsFor_byte ?_
    rintro rfl
    exact hbackslash hmem
  rwa [List.flatMap_singleton'] at hbytes

/-- Assumes: a character that is no backslash. Its encoding stands for itself. -/
theorem standsFor_encodeChar {c : Char} (hbackslash : c ≠ '\\') :
    StandsFor (encodeChar c) (encodeChar c) := by
  refine standsFor_verbatim fun hmem ↦ ?_
  by_cases hascii : c.toNat < 0x80
  · rw [encodeChar_of_ascii hascii, List.mem_singleton] at hmem
    have hnumber := congrArg UInt8.toNat hmem
    rw [Nat.toUInt8_eq, UInt8.toNat_ofNat_of_lt' (Nat.lt_trans hascii (by decide))] at hnumber
    exact hbackslash (Char.toNat_inj.mp hnumber.symm)
  · exact absurd (le_of_mem_encodeChar (Nat.le_of_not_lt hascii) _ hmem) (by decide)

/-! ### Numbers -/

theorem hexValue_hexDigit {n : Nat} (hdigit : n < 0x10) : hexValue (hexDigit n) = n := by
  revert n
  decide

@[simp] theorem length_hexadecimal (width n : Nat) : (hexadecimal width n).length = width := by
  induction width generalizing n with
  | zero => rfl
  | succ width ih => rw [hexadecimal, List.length_append, ih, List.length_singleton]

/-- The last digits of a number spell its remainder. -/
theorem hexNumber_hexadecimal (width n : Nat) :
    hexNumber (hexadecimal width n) = n % Nat.pow 0x10 width := by
  induction width generalizing n with
  | zero => exact (Nat.mod_one n).symm
  | succ width ih =>
    have hdigit : n % 0x10 < 0x10 := Nat.mod_lt n (by decide)
    have hfront : (hexadecimal width (n / 0x10)).foldl
        (fun sum digit ↦ sum * 0x10 + hexValue digit) 0 = n / 0x10 % Nat.pow 0x10 width :=
      ih (n / 0x10)
    have hpower : Nat.pow 0x10 (width + 1) = 0x10 * Nat.pow 0x10 width := Nat.mul_comm _ _
    rw [hexadecimal, hexNumber, List.foldl_append, hfront, List.foldl_cons, List.foldl_nil,
      hexValue_hexDigit hdigit, hpower, Nat.mod_mul, Nat.mul_comm, Nat.add_comm]

/-- Assumes: an escape whose letter announces a number of digits, with a rule for what the number
means. The escape of a number that has no more digits stands for what it means. -/
theorem standsFor_numbered {letter : Char} {width n : Nat} (mean : Nat → Bytes)
    (hread : ∀ digits, readEscape (ascii '\\') (ascii letter :: digits) =
      (mean (hexNumber (digits.take width)), width + 1))
    (hbound : n < Nat.pow 0x10 width) : StandsFor (numbered letter width n) (mean n) := by
  intro rest
  have htake : (hexadecimal width n ++ rest).take width = hexadecimal width n :=
    List.take_left' (length_hexadecimal width n)
  have hdrop : (hexadecimal width n ++ rest).drop width = rest :=
    List.drop_left' (length_hexadecimal width n)
  rw [numbered, List.cons_append, List.cons_append, unescape_cons, hread, htake,
    hexNumber_hexadecimal, Nat.mod_eq_of_lt hbound, List.drop_succ_cons, hdrop]

/-- A two-digit escape stands for the byte with its number. -/
theorem standsFor_numbered_byte {n : Nat} (hbyte : n < 0x100) :
    StandsFor (numbered 'x' 2 n) [n.toUInt8] :=
  standsFor_numbered (fun number ↦ [number.toUInt8]) (fun _ ↦ rfl) hbyte

/-- A four-digit escape stands for the character with its number. -/
theorem standsFor_numbered_short {c : Char} (hshort : c.toNat < 0x10000) :
    StandsFor (numbered 'u' 4 c.toNat) (encodeChar c) := by
  have hstands : StandsFor (numbered 'u' 4 c.toNat) (encodeChar (Char.ofNat c.toNat)) :=
    standsFor_numbered (fun number ↦ encodeChar (Char.ofNat number)) (fun _ ↦ rfl) hshort
  rwa [Char.ofNat_toNat] at hstands

/-- An eight-digit escape stands for the character with its number. -/
theorem standsFor_numbered_long (c : Char) :
    StandsFor (numbered 'U' 8 c.toNat) (encodeChar c) := by
  have hstands : StandsFor (numbered 'U' 8 c.toNat) (encodeChar (Char.ofNat c.toNat)) :=
    standsFor_numbered (fun number ↦ encodeChar (Char.ofNat number)) (fun _ ↦ rfl)
      (Nat.lt_trans (toNat_lt c) (by decide))
  rwa [Char.ofNat_toNat] at hstands

/-! ### Letters and marks -/

/-- A letter behind a backslash stands for its control character. -/
theorem standsFor_controlLetter {c letter : Char} (hletter : controlLetter? c = some letter) :
    StandsFor [ascii '\\', ascii letter] (encodeChar c) := by
  unfold controlLetter? at hletter
  split at hletter <;> cases hletter
  all_goals
    next hnumber =>
      rw [encodeChar_of_ascii (by omega), hnumber]
      exact fun rest ↦ unescape_cons _ _

/-- A mark behind a backslash stands for itself. -/
theorem standsFor_mark {c : Char} (hmark : c ∈ quotedStyle.marks) :
    StandsFor (ascii '\\' :: encodeChar c) (encodeChar c) := by
  simp only [quotedStyle, List.mem_cons, List.not_mem_nil, or_false] at hmark
  rcases hmark with rfl | rfl
  · exact fun rest ↦ unescape_cons _ _
  · exact fun rest ↦ unescape_cons _ _

/-! ### Whole tokens -/

/-- What a character is written as in a quoted token stands for it. -/
theorem standsFor_writeChar (c : Char) : StandsFor (quotedStyle.writeChar c) (encodeChar c) := by
  unfold Style.writeChar
  split
  · next hmark => exact standsFor_mark hmark
  · next hmark =>
    split
    · refine standsFor_encodeChar ?_
      rintro rfl
      exact hmark (by decide)
    · split
      · next letter hletter => exact standsFor_controlLetter hletter
      · split
        · next hcontrol =>
          -- Two digits are for a byte, so they serve a character only if its encoding is one byte.
          have hascii : c.toNat < 0x80 := by
            rcases hcontrol with hlow | ⟨-, hdelete⟩ <;> omega
          rw [encodeChar_of_ascii hascii]
          exact standsFor_numbered_byte (by omega)
        · split
          · next hshort => exact standsFor_numbered_short hshort
          · exact standsFor_numbered_long c

/-- What a piece is written as in a quoted token stands for its bytes: a stray byte is written by
its value, so it is told apart from the character that it shows. -/
theorem standsFor_writePiece (piece : Piece) :
    StandsFor (quotedStyle.writePiece piece) piece.bytes := by
  cases piece with
  | char c => exact standsFor_writeChar c
  | stray byte =>
    have hstands := standsFor_numbered_byte byte.toNat_lt
    rwa [Nat.toUInt8_eq, UInt8.ofNat_toNat] at hstands

/-- Whatever bytes a token holds, they are read back from what is written for it. -/
theorem unescape_write (token : Bytes) : unescape (quotedStyle.write token) = token := by
  have hstands : StandsFor (quotedStyle.write token) ((pieces token).flatMap Piece.bytes) :=
    StandsFor.flatMap fun piece _ ↦ standsFor_writePiece piece
  rw [hstands.unescape_eq, flatMap_bytes_pieces]

/-! ### Quoted tokens in a longer text -/

/-- What stands between the first and the last quotation mark of a text. -/
def quotedPart (text : Bytes) : Bytes :=
  between ((text.dropWhile (· ≠ ascii '"')).reverse.dropWhile (· ≠ ascii '"')).reverse

theorem between_quote (token : Bytes) : between (quote token) = quotedStyle.write token :=
  List.dropLast_concat

/-- Assumes: a text with no quotation mark. It is passed over on the way to the first one. -/
theorem dropWhile_append_mark {text : Bytes} (hmark : ascii '"' ∉ text) (rest : Bytes) :
    (text ++ ascii '"' :: rest).dropWhile (· ≠ ascii '"') = ascii '"' :: rest := by
  rw [List.dropWhile_append_of_pos, List.dropWhile_cons_of_neg (by decide)]
  intro byte hmem
  rw [decide_eq_true_eq]
  rintro rfl
  exact hmark hmem

/-- Assumes: texts with no quotation mark before and behind a quoted token. The token is found
between the first mark and the last. -/
theorem quotedPart_quote {front back : Bytes} (hfront : ascii '"' ∉ front)
    (hback : ascii '"' ∉ back) (token : Bytes) :
    quotedPart (front ++ quote token ++ back) = quotedStyle.write token := by
  have hopen : front ++ quote token ++ back =
      front ++ ascii '"' :: (quotedStyle.write token ++ [ascii '"'] ++ back) := by
    simp only [quote, List.append_assoc, List.cons_append]
  have hclose : (ascii '"' :: (quotedStyle.write token ++ [ascii '"'] ++ back)).reverse =
      back.reverse ++ ascii '"' :: ((quotedStyle.write token).reverse ++ [ascii '"']) := by
    simp only [List.reverse_cons, List.reverse_append, List.append_assoc, List.nil_append,
      List.cons_append]
  have hquote : (ascii '"' :: ((quotedStyle.write token).reverse ++ [ascii '"'])).reverse =
      quote token := by
    simp only [quote, List.reverse_cons, List.reverse_append, List.reverse_reverse,
      List.reverse_nil, List.nil_append, List.cons_append]
  rw [quotedPart, hopen, dropWhile_append_mark hfront, hclose,
    dropWhile_append_mark (mt List.mem_reverse.mp hback), hquote, between_quote]

/-- Assumes: texts with no quotation mark before and behind a quoted token. Whatever bytes the token
holds, they are read back from between the first mark and the last. -/
theorem unescape_quotedPart {front back : Bytes} (hfront : ascii '"' ∉ front)
    (hback : ascii '"' ∉ back) (token : Bytes) :
    unescape (quotedPart (front ++ quote token ++ back)) = token := by
  rw [quotedPart_quote hfront hback, unescape_write]

end Invocation.Text
