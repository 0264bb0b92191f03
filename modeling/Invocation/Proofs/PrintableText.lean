import Invocation.Failure

/-!
# Printable texts and clean texts

A printable text is the encoding of printable characters (`IsPrintableText`). A clean text is any
byte string without ASCII control bytes (`IsClean`); it may hold stray bytes. Every printable text
is clean (`IsPrintableText.isClean`), and so is a byte string whose pieces all show a printable
character (`isClean_of_pieces`), because a stray byte lies above the ASCII range
(`le_of_stray_mem_pieces`).

Escaping makes any byte string printable as long as the style itself is made of printable
characters (`Style.isPrintableText_write`). So a quoted token is printable text, and with it the
message of every failure (`Failure.isPrintableText_message`).
-/

set_option autoImplicit false
set_option relaxedAutoImplicit false

namespace Invocation.Text

/-! ### Clean texts -/

/-- Whether a byte is an ASCII control character. -/
def isControl (byte : UInt8) : Bool :=
  byte < 0x20 || byte == 0x7F

/-- Whether a byte string holds no ASCII control character. -/
def IsClean (text : Bytes) : Prop :=
  ∀ byte ∈ text, isControl byte = false

theorem all_not_isControl_iff {text : Bytes} :
    (text.all fun byte ↦ !isControl byte) = true ↔ IsClean text := by
  simp only [List.all_eq_true, Bool.not_eq_true', IsClean]

instance (text : Bytes) : Decidable (IsClean text) :=
  decidable_of_iff _ all_not_isControl_iff

@[simp] theorem isClean_nil : IsClean [] :=
  fun _ hmem ↦ absurd hmem List.not_mem_nil

@[simp] theorem isClean_cons {byte : UInt8} {rest : Bytes} :
    IsClean (byte :: rest) ↔ isControl byte = false ∧ IsClean rest :=
  List.forall_mem_cons

theorem IsClean.append {first second : Bytes} (hfirst : IsClean first) (hsecond : IsClean second) :
    IsClean (first ++ second) :=
  List.forall_mem_append.mpr ⟨hfirst, hsecond⟩

theorem isClean_flatMap {α : Type} {list : List α} {write : α → Bytes}
    (hwrite : ∀ item ∈ list, IsClean (write item)) : IsClean (list.flatMap write) := by
  intro byte hbyte
  obtain ⟨item, hitem, hbyte⟩ := List.mem_flatMap.mp hbyte
  exact hwrite item hitem byte hbyte

/-- A clean text is on one line. -/
theorem IsClean.newline_not_mem {text : Bytes} (hclean : IsClean text) : (0x0A : UInt8) ∉ text :=
  fun hmem ↦ absurd (hclean 0x0A hmem) (by decide)

theorem toNat_toUInt8 {n : Nat} (hbyte : n < 0x100) : n.toUInt8.toNat = n := by
  rw [Nat.toUInt8_eq, UInt8.toNat_ofNat_of_lt' hbyte]

/-- Which numbers of the byte range are no control characters. -/
theorem isControl_toUInt8 {n : Nat} (hbyte : n < 0x100) (hlow : 0x20 ≤ n) (hdelete : n ≠ 0x7F) :
    isControl n.toUInt8 = false := by
  have hvalue := toNat_toUInt8 hbyte
  have hless : ¬ n.toUInt8 < 0x20 := by
    rw [UInt8.lt_iff_toNat_lt, hvalue]
    exact Nat.not_lt.mpr hlow
  have hne : n.toUInt8 ≠ 0x7F := by
    intro heq
    exact hdelete (hvalue.symm.trans (congrArg UInt8.toNat heq))
  rw [isControl, decide_eq_false hless, beq_eq_false_iff_ne.mpr hne]
  rfl

/-- No byte above the ASCII range is a control character. -/
theorem isControl_of_le {byte : UInt8} (hupper : 0x80 ≤ byte.toNat) : isControl byte = false := by
  have hbyte := isControl_toUInt8 byte.toNat_lt (by omega) (by omega)
  rwa [Nat.toUInt8_eq, UInt8.ofNat_toNat] at hbyte

/-! ### Characters -/

theorem toNat_lt (c : Char) : c.toNat < 0x110000 := by
  rcases c.valid with hlow | hhigh
  · exact Nat.lt_trans hlow (by decide)
  · exact hhigh.2

theorem toNat_ofNat {n : Nat} (hvalid : n.isValidChar) : (Char.ofNat n).toNat = n := by
  rw [Char.ofNat, dif_pos hvalid]
  exact UInt32.toNat_ofNatLT

/-- A byte of the ASCII range is the encoding of the character with its number. -/
theorem encodeChar_ofNat {byte : UInt8} (hascii : byte.toNat < 0x80) :
    encodeChar (Char.ofNat byte.toNat) = [byte] := by
  have hvalid : byte.toNat.isValidChar := Or.inl (by omega)
  simp only [encodeChar, toNat_ofNat hvalid, if_pos hascii, Nat.toUInt8_eq, UInt8.ofNat_toNat]

/-- The encoding of a character of the ASCII range is the byte with its number. -/
theorem encodeChar_of_ascii {c : Char} (hascii : c.toNat < 0x80) :
    encodeChar c = [c.toNat.toUInt8] :=
  if_pos hascii

/-- The encoding of a character above the ASCII range has all its bytes above that range. -/
theorem le_of_mem_encodeChar {c : Char} (hupper : 0x80 ≤ c.toNat) :
    ∀ byte ∈ encodeChar c, 0x80 ≤ byte.toNat := by
  have hbound := toNat_lt c
  have hbyte {n : Nat} (hlow : 0x80 ≤ n) (hhigh : n < 0x100) : 0x80 ≤ n.toUInt8.toNat := by
    rw [toNat_toUInt8 hhigh]
    exact hlow
  unfold encodeChar
  dsimp only
  rw [if_neg (Nat.not_lt.mpr hupper)]
  split
  · simp only [List.forall_mem_cons, List.not_mem_nil, false_implies, implies_true, and_true]
    exact ⟨hbyte (by omega) (by omega), hbyte (by omega) (by omega)⟩
  · split
    · simp only [List.forall_mem_cons, List.not_mem_nil, false_implies, implies_true, and_true]
      exact ⟨hbyte (by omega) (by omega), hbyte (by omega) (by omega), hbyte (by omega) (by omega)⟩
    · simp only [List.forall_mem_cons, List.not_mem_nil, false_implies, implies_true, and_true]
      exact ⟨hbyte (by omega) (by omega), hbyte (by omega) (by omega), hbyte (by omega) (by omega),
        hbyte (by omega) (by omega)⟩

/-- The encoding of a character outside the control range is clean: one byte that is the character
itself, or several from the upper half of the byte range. -/
theorem isClean_encodeChar {c : Char} (hlow : 0x20 ≤ c.toNat) (hdelete : c.toNat ≠ 0x7F) :
    IsClean (encodeChar c) := by
  by_cases hascii : c.toNat < 0x80
  · rw [encodeChar_of_ascii hascii]
    exact isClean_cons.mpr ⟨isControl_toUInt8 (by omega) hlow hdelete, isClean_nil⟩
  · intro byte hmem
    exact isControl_of_le (le_of_mem_encodeChar (Nat.le_of_not_lt hascii) byte hmem)

/-- No control character is printable, neither of the ASCII range nor above it. -/
theorem not_control_of_isPrintable {c : Char} (hprintable : isPrintable c = true) :
    0x20 ≤ c.toNat ∧ (c.toNat < 0x7F ∨ 0x9F < c.toNat) := by
  have hranges : ∀ range ∈ printableRanges, 0x20 ≤ range.1 ∧ (range.2 < 0x7F ∨ 0x9F < range.1) := by
    decide +kernel
  obtain ⟨range, hrange, hfirst, hlast⟩ := covered_iff.mp hprintable
  obtain ⟨hlow, hapart⟩ := hranges range hrange
  omega

/-! ### Pieces -/

/-- Every lexeme was read at some place. -/
theorem exists_read_of_mem_lexemes {α : Type} {read : UInt8 → Bytes → α × Nat} {skip : Nat}
    {bytes : Bytes} {lexeme : α} (hmem : lexeme ∈ lexemes read skip bytes) :
    ∃ byte rest, (read byte rest).1 = lexeme := by
  fun_induction lexemes read skip bytes with
  | case1 => exact absurd hmem List.not_mem_nil
  | case2 skip byte rest ih => exact ih hmem
  | case3 byte rest ih =>
    rcases List.mem_cons.mp hmem with rfl | hmem
    · exact ⟨byte, rest, rfl⟩
    · exact ih hmem

/-- A byte of the ASCII range is always a character. -/
theorem leading?_of_ascii {lead : UInt8} (rest : Bytes) (hascii : lead.toNat < 0x80) :
    leading? lead rest = some (Char.ofNat lead.toNat) := by
  have hless : lead < 0x80 := UInt8.lt_iff_toNat_lt.mpr hascii
  have hspelled : spelled lead rest = lead.toNat := by
    rw [spelled, if_pos hless]
  rw [leading?, hspelled, encodeChar_ofNat hascii]
  exact if_pos ⟨rest, rfl⟩

/-- A stray byte lies above the ASCII range. -/
theorem le_of_stray_mem_pieces {bytes : Bytes} {byte : UInt8}
    (hmem : Piece.stray byte ∈ pieces bytes) : 0x80 ≤ byte.toNat := by
  obtain ⟨lead, rest, hread⟩ := exists_read_of_mem_lexemes hmem
  by_cases hascii : lead.toNat < 0x80
  · rw [readPiece, leading?_of_ascii rest hascii] at hread
    cases hread
  · rw [readPiece] at hread
    split at hread
    · cases hread
    · cases hread
      exact Nat.le_of_not_lt hascii

/-- A byte string that shows nothing but printable characters is clean. Its stray bytes show the
replacement character and are above the control range. -/
theorem isClean_of_pieces {bytes : Bytes}
    (hshown : ∀ piece ∈ pieces bytes, isPrintable piece.shown = true) : IsClean bytes := by
  rw [← flatMap_bytes_pieces bytes]
  refine isClean_flatMap fun piece hpiece ↦ ?_
  cases piece with
  | char c =>
    have hprintable : isPrintable c = true := hshown _ hpiece
    obtain ⟨hlow, hapart⟩ := not_control_of_isPrintable hprintable
    exact isClean_encodeChar hlow (by omega)
  | stray byte =>
    exact isClean_cons.mpr ⟨isControl_of_le (le_of_stray_mem_pieces hpiece), isClean_nil⟩

/-! ### Printable texts -/

/-- Whether a byte string is the encoding of printable characters. -/
def IsPrintableText (text : Bytes) : Prop :=
  ∃ chars : List Char, (∀ c ∈ chars, isPrintable c = true) ∧ chars.flatMap encodeChar = text

namespace IsPrintableText

theorem append {first second : Bytes} (hfirst : IsPrintableText first)
    (hsecond : IsPrintableText second) : IsPrintableText (first ++ second) := by
  obtain ⟨chars, hchars, rfl⟩ := hfirst
  obtain ⟨others, hothers, rfl⟩ := hsecond
  exact ⟨chars ++ others, List.forall_mem_append.mpr ⟨hchars, hothers⟩, List.flatMap_append⟩

theorem flatMap {α : Type} {list : List α} {write : α → Bytes}
    (hwrite : ∀ item ∈ list, IsPrintableText (write item)) :
    IsPrintableText (list.flatMap write) := by
  induction list with
  | nil => exact ⟨[], fun _ hmem ↦ absurd hmem List.not_mem_nil, rfl⟩
  | cons item list ih =>
    obtain ⟨hitem, hlist⟩ := List.forall_mem_cons.mp hwrite
    exact hitem.append (ih hlist)

theorem isClean {text : Bytes} (hprintable : IsPrintableText text) : IsClean text := by
  obtain ⟨chars, hchars, rfl⟩ := hprintable
  refine isClean_flatMap fun c hc ↦ ?_
  obtain ⟨hlow, hapart⟩ := not_control_of_isPrintable (hchars c hc)
  exact isClean_encodeChar hlow (by omega)

end IsPrintableText

theorem isPrintableText_encodeChar {c : Char} (hprintable : isPrintable c = true) :
    IsPrintableText (encodeChar c) :=
  ⟨[c], List.forall_mem_singleton.mpr hprintable, List.append_nil _⟩

/-- Whether a byte is an ASCII character that is no control character. -/
def isGraphic (byte : UInt8) : Bool :=
  0x20 ≤ byte.toNat && byte.toNat ≤ 0x7E

/-- ASCII text without control characters is printable. -/
theorem isPrintableText_of_ascii {text : Bytes} (hascii : text.all isGraphic = true) :
    IsPrintableText text := by
  rw [← List.flatMap_singleton' text]
  refine IsPrintableText.flatMap fun byte hbyte ↦ ?_
  have hgraphic := List.all_eq_true.mp hascii byte hbyte
  rw [isGraphic, Bool.and_eq_true, decide_eq_true_eq, decide_eq_true_eq] at hgraphic
  obtain ⟨hlow, hhigh⟩ := hgraphic
  have hvalid : byte.toNat.isValidChar := Or.inl (by omega)
  rw [← encodeChar_ofNat (by omega : byte.toNat < 0x80)]
  refine isPrintableText_encodeChar (covered_iff.mpr ⟨(0x20, 0x7E), List.mem_cons_self, ?_⟩)
  rw [toNat_ofNat hvalid]
  exact ⟨hlow, hhigh⟩

/-! ### Escapes -/

theorem isGraphic_hexDigit {n : Nat} (hdigit : n < 0x10) : isGraphic (hexDigit n) = true := by
  revert n
  decide

theorem isPrintableText_hexadecimal (width n : Nat) : IsPrintableText (hexadecimal width n) := by
  refine isPrintableText_of_ascii ?_
  induction width generalizing n with
  | zero => rfl
  | succ width ih =>
    have hdigit := isGraphic_hexDigit (Nat.mod_lt n (by decide : 0 < 0x10))
    rw [hexadecimal, List.all_append, ih, List.all_cons, hdigit]
    rfl

/-- The letters behind a backslash are those of the control characters. -/
theorem isPrintableText_controlLetter {c letter : Char} (hletter : controlLetter? c = some letter) :
    IsPrintableText [ascii '\\', ascii letter] := by
  unfold controlLetter? at hletter
  split at hletter <;> cases hletter <;> exact isPrintableText_of_ascii (by decide)

/-- A number is printable behind a printable letter. -/
theorem isPrintableText_numbered {letter : Char}
    (hletter : [ascii '\\', ascii letter].all isGraphic = true) (width n : Nat) :
    IsPrintableText (numbered letter width n) :=
  (isPrintableText_of_ascii hletter).append (isPrintableText_hexadecimal width n)

/-- A style whose own characters are printable. -/
structure Style.IsPlain (style : Style) : Prop where
  marks : style.marks.all isPrintable = true
  stray : ∀ byte, IsPrintableText (style.stray byte)

theorem Style.isPrintableText_writeChar {style : Style} (hplain : style.IsPlain) (c : Char) :
    IsPrintableText (style.writeChar c) := by
  have hbackslash : IsPrintableText [ascii '\\'] := isPrintableText_of_ascii (by decide)
  unfold writeChar
  split
  · next hmark =>
    have hprintable := List.all_eq_true.mp hplain.marks c hmark
    exact hbackslash.append (isPrintableText_encodeChar hprintable)
  · split
    · next hprintable => exact isPrintableText_encodeChar hprintable
    · split
      · next letter hletter => exact isPrintableText_controlLetter hletter
      · split
        · exact isPrintableText_numbered (by decide) 2 c.toNat
        · split
          · exact isPrintableText_numbered (by decide) 4 c.toNat
          · exact isPrintableText_numbered (by decide) 8 c.toNat

/-- Whatever bytes are escaped, the result is printable. -/
theorem Style.isPrintableText_write {style : Style} (hplain : style.IsPlain) (bytes : Bytes) :
    IsPrintableText (style.write bytes) := by
  refine IsPrintableText.flatMap fun piece _ ↦ ?_
  cases piece with
  | char c => exact isPrintableText_writeChar hplain c
  | stray byte => exact hplain.stray byte

theorem isPlain_quotedStyle : quotedStyle.IsPlain where
  marks := by decide
  stray byte := isPrintableText_numbered (by decide) 2 byte.toNat

/-- A quoted token is printable, whatever bytes it was made of. -/
theorem isPrintableText_quote (bytes : Bytes) : IsPrintableText (quote bytes) := by
  have hmark : IsPrintableText [ascii '"'] := isPrintableText_of_ascii (by decide)
  exact (hmark.append (Style.isPrintableText_write isPlain_quotedStyle bytes)).append hmark

end Invocation.Text

namespace Invocation

open Text

/-- The message of every failure is printable: a token that the user made up is quoted, and what is
not quoted is a word of the program. -/
theorem Failure.isPrintableText_message (failure : Failure) :
    IsPrintableText failure.message := by
  have hquoted (front back token : Bytes) (hfront : IsPrintableText front)
      (hback : IsPrintableText back) : IsPrintableText (front ++ quote token ++ back) :=
    (hfront.append (isPrintableText_quote token)).append hback
  cases failure with
  | tooFewArguments => exact isPrintableText_of_ascii (by decide)
  | emptyInput => exact isPrintableText_of_ascii (by decide)
  | invalidMode token =>
    change IsPrintableText (_ ++ quote token ++ _ ++ _)
    rw [List.append_assoc]
    exact hquoted _ _ token (isPrintableText_of_ascii (by decide))
      (isPrintableText_of_ascii (by decide))
  | unknownFlag token =>
    exact (isPrintableText_of_ascii (by decide)).append (isPrintableText_quote token)
  | missingValue flag => cases flag <;> exact isPrintableText_of_ascii (by decide)
  | targetNotSupported stage => cases stage <;> exact isPrintableText_of_ascii (by decide)
  | unknownTarget token =>
    change IsPrintableText (_ ++ quote token ++ _ ++ _)
    rw [List.append_assoc]
    exact hquoted _ _ token (isPrintableText_of_ascii (by decide))
      (isPrintableText_of_ascii (by decide))

end Invocation
