import Mathlib.Data.List.DropRight
import Invocation.Proofs.Decoding
import Invocation.Text.Blank

/-!
# What trimming leaves

Trimming is done on pieces, and what it leaves is told here on bytes. A byte string is white space,
a core and white space again, and the core neither begins nor ends with the encoding of a white
space character (`IsCore`). Every byte string has exactly one core, and that is what `trim` returns
(`isCore_iff`). Bytes that only look like the end of a white space character belong to the core,
because characters are read where they are written.

So white space alone has an empty core (`trim_eq_nil_iff`), and white space that is added at either
end changes nothing (`trim_append`).
-/

set_option autoImplicit false
set_option relaxedAutoImplicit false

namespace Invocation.Text

/-! ### Trimming pieces -/

/-- Whether all pieces of a list are white space. -/
def IsBlankList (list : List Piece) : Prop :=
  ∀ piece ∈ list, piece.isBlank = true

/-- Whether a list of pieces neither begins nor ends with a blank one. -/
structure IsTrimmed (list : List Piece) : Prop where
  head : ∀ piece ∈ list.head?, piece.isBlank = false
  last : ∀ piece ∈ list.getLast?, piece.isBlank = false

/-- What is taken away at either end is blank. -/
theorem exists_trimPieces (list : List Piece) :
    ∃ front back, front ++ trimPieces list ++ back = list ∧ IsBlankList front ∧
      IsBlankList back := by
  refine ⟨list.takeWhile Piece.isBlank, (list.dropWhile Piece.isBlank).rtakeWhile Piece.isBlank,
    ?_, fun piece ↦ List.mem_takeWhile_imp, fun piece ↦ List.mem_rtakeWhile_imp⟩
  change _ ++ (list.dropWhile Piece.isBlank).rdropWhile Piece.isBlank ++ _ = list
  rw [List.append_assoc, List.rdropWhile_append_rtakeWhile, List.takeWhile_append_dropWhile]

/-- What is left neither begins nor ends with a blank piece. -/
theorem isTrimmed_trimPieces (list : List Piece) : IsTrimmed (trimPieces list) := by
  change IsTrimmed ((list.dropWhile Piece.isBlank).rdropWhile Piece.isBlank)
  constructor
  · intro piece hpiece
    obtain ⟨rest, hrest⟩ := List.rdropWhile_prefix Piece.isBlank (list.dropWhile Piece.isBlank)
    have hhead : (list.dropWhile Piece.isBlank).head? = some piece := by
      rw [← hrest, List.head?_append, Option.mem_def.mp hpiece]
      rfl
    have hstop := List.head?_dropWhile_not Piece.isBlank list
    rwa [hhead] at hstop
  · intro piece hpiece
    obtain ⟨hne, rfl⟩ := List.mem_getLast?_eq_getLast hpiece
    exact Bool.eq_false_iff.mpr (List.rdropWhile_last_not _ _ hne)

/-- Assumes: blank pieces in front of a list that begins with no blank one. They are dropped and
nothing else. -/
theorem dropWhile_isBlank_append {front rest : List Piece} (hfront : IsBlankList front)
    (hrest : ∀ piece ∈ rest.head?, piece.isBlank = false) :
    (front ++ rest).dropWhile Piece.isBlank = rest := by
  rw [List.dropWhile_append_of_pos hfront]
  cases rest with
  | nil => rfl
  | cons piece rest => exact List.dropWhile_cons_of_neg (Bool.eq_false_iff.mp (hrest piece rfl))

/-- Assumes: blank pieces around a trimmed list. Trimming leaves that list. -/
theorem trimPieces_append {front core back : List Piece} (hfront : IsBlankList front)
    (hback : IsBlankList back) (hcore : IsTrimmed core) :
    trimPieces (front ++ core ++ back) = core := by
  by_cases hempty : core = []
  · -- Without a core, the blank pieces in front are not told from those at the end.
    have hblank : IsBlankList (front ++ back) := List.forall_mem_append.mpr ⟨hfront, hback⟩
    rw [hempty, List.append_nil, trimPieces, List.dropWhile_eq_nil_iff.mpr hblank]
    rfl
  · have hhead : ∀ piece ∈ (core ++ back).head?, piece.isBlank = false := by
      rw [List.head?_append_of_ne_nil core hempty]
      exact hcore.head
    have hlast : ∀ piece ∈ core.reverse.head?, piece.isBlank = false := by
      rw [List.head?_reverse]
      exact hcore.last
    have hreverse : IsBlankList back.reverse := fun piece hmem ↦
      hback piece (List.mem_reverse.mp hmem)
    rw [trimPieces, List.append_assoc, dropWhile_isBlank_append hfront hhead, List.reverse_append,
      dropWhile_isBlank_append hreverse hlast, List.reverse_reverse]

/-! ### White space and cores -/

/-- Whether a byte string is the encoding of white space characters. -/
def IsBlankText (text : Bytes) : Prop :=
  ∃ chars : List Char, (∀ c ∈ chars, isBlank c = true) ∧ chars.flatMap encodeChar = text

/-- Whether a byte string is what remains of a text when as much white space as possible is taken
away at either end. -/
structure IsCore (text core : Bytes) : Prop where
  split : ∃ front back, text = front ++ core ++ back ∧ IsBlankText front ∧ IsBlankText back
  head : ∀ c, isBlank c = true → ¬ encodeChar c <+: core
  last : ∀ c, isBlank c = true → ¬ encodeChar c <:+ core

theorem isBlankText_nil : IsBlankText [] :=
  ⟨[], fun _ hmem ↦ absurd hmem List.not_mem_nil, rfl⟩

theorem IsBlankText.append {first second : Bytes} (hfirst : IsBlankText first)
    (hsecond : IsBlankText second) : IsBlankText (first ++ second) := by
  obtain ⟨chars, hchars, rfl⟩ := hfirst
  obtain ⟨others, hothers, rfl⟩ := hsecond
  exact ⟨chars ++ others, List.forall_mem_append.mpr ⟨hchars, hothers⟩, List.flatMap_append⟩

/-- Only characters are blank. -/
theorem exists_char_of_isBlank {piece : Piece} (hblank : piece.isBlank = true) :
    ∃ c, isBlank c = true ∧ piece = .char c := by
  cases piece with
  | char c => exact ⟨c, hblank, rfl⟩
  | stray byte => cases hblank

/-- Blank pieces spell white space. -/
theorem IsBlankList.exists_chars {list : List Piece} (hblank : IsBlankList list) :
    ∃ chars : List Char, (∀ c ∈ chars, isBlank c = true) ∧ list = chars.map .char := by
  induction list with
  | nil => exact ⟨[], fun _ hmem ↦ absurd hmem List.not_mem_nil, rfl⟩
  | cons piece list ih =>
    obtain ⟨hpiece, hlist⟩ := List.forall_mem_cons.mp hblank
    obtain ⟨c, hc, rfl⟩ := exists_char_of_isBlank hpiece
    obtain ⟨chars, hchars, rfl⟩ := ih hlist
    exact ⟨c :: chars, List.forall_mem_cons.mpr ⟨hc, hchars⟩, rfl⟩

theorem isBlankList_map_char {chars : List Char} (hchars : ∀ c ∈ chars, isBlank c = true) :
    IsBlankList (chars.map .char) := by
  intro piece hmem
  obtain ⟨c, hc, rfl⟩ := List.mem_map.mp hmem
  exact hchars c hc

/-- White space around any bytes is read as white space around the pieces of those bytes. -/
theorem pieces_surrounded (front back : List Char) (core : Bytes) :
    pieces (front.flatMap encodeChar ++ core ++ back.flatMap encodeChar) =
      front.map .char ++ pieces core ++ back.map .char := by
  rw [pieces_append_chars, pieces_chars_append]

/-- A byte string neither begins nor ends with white space exactly when its pieces do not. -/
theorem isTrimmed_pieces_iff {bytes : Bytes} :
    IsTrimmed (pieces bytes) ↔
      (∀ c, isBlank c = true → ¬ encodeChar c <+: bytes) ∧
        ∀ c, isBlank c = true → ¬ encodeChar c <:+ bytes := by
  constructor
  · intro htrimmed
    constructor
    · rintro c hc ⟨rest, rfl⟩
      have hpiece := htrimmed.head (.char c)
      rw [pieces_encodeChar_append] at hpiece
      exact nomatch (hpiece rfl).symm.trans hc
    · rintro c hc ⟨rest, rfl⟩
      have hpieces : pieces (rest ++ encodeChar c) = pieces rest ++ [.char c] := by
        simpa using pieces_append_chars rest [c]
      have hpiece := htrimmed.last (.char c)
      rw [hpieces] at hpiece
      exact nomatch (hpiece List.getLast?_concat).symm.trans hc
  · rintro ⟨hhead, hlast⟩
    constructor
    · intro piece hpiece
      refine Bool.eq_false_iff.mpr fun hblank ↦ ?_
      obtain ⟨c, hc, rfl⟩ := exists_char_of_isBlank hblank
      obtain ⟨rest, hrest⟩ := List.head?_eq_some_iff.mp hpiece
      refine hhead c hc ⟨rest.flatMap Piece.bytes, ?_⟩
      rw [← flatMap_bytes_pieces bytes, hrest]
      rfl
    · intro piece hpiece
      refine Bool.eq_false_iff.mpr fun hblank ↦ ?_
      obtain ⟨c, hc, rfl⟩ := exists_char_of_isBlank hblank
      obtain ⟨rest, hrest⟩ := List.getLast?_eq_some_iff.mp hpiece
      refine hlast c hc ⟨rest.flatMap Piece.bytes, ?_⟩
      rw [← flatMap_bytes_pieces bytes, hrest, List.flatMap_append, List.flatMap_singleton]
      rfl

/-- What trimming leaves is a core. -/
theorem isCore_trim (text : Bytes) : IsCore text (trim text) := by
  obtain ⟨front, back, hsplit, hfront, hback⟩ := exists_trimPieces (pieces text)
  obtain ⟨before, hbefore, rfl⟩ := hfront.exists_chars
  obtain ⟨behind, hbehind, rfl⟩ := hback.exists_chars
  have htext : before.flatMap encodeChar ++ trim text ++ behind.flatMap encodeChar = text :=
    calc before.flatMap encodeChar ++ trim text ++ behind.flatMap encodeChar
      _ = (before.map Piece.char ++ trimPieces (pieces text) ++
          behind.map Piece.char).flatMap Piece.bytes := by
        rw [List.flatMap_append, List.flatMap_append, List.flatMap_map, List.flatMap_map]
        rfl
      _ = text := by rw [hsplit, flatMap_bytes_pieces]
  -- The core is read as the pieces that trimming left: white space around it is read apart from it.
  have hpieces : trimPieces (pieces text) = pieces (trim text) := by
    have hread := pieces_surrounded before behind (trim text)
    rw [htext, ← hsplit] at hread
    exact List.append_cancel_left (List.append_cancel_right hread)
  have htrimmed := isTrimmed_trimPieces (pieces text)
  rw [hpieces, isTrimmed_pieces_iff] at htrimmed
  exact ⟨⟨_, _, htext.symm, ⟨before, hbefore, rfl⟩, ⟨behind, hbehind, rfl⟩⟩, htrimmed.1, htrimmed.2⟩

/-- Every byte string has exactly one core, and trimming finds it. -/
theorem isCore_iff {text core : Bytes} : IsCore text core ↔ trim text = core := by
  constructor
  · rintro ⟨⟨front, back, rfl, ⟨before, hbefore, rfl⟩, ⟨behind, hbehind, rfl⟩⟩, hhead, hlast⟩
    have htrimmed := isTrimmed_pieces_iff.mpr ⟨hhead, hlast⟩
    rw [trim, pieces_surrounded, trimPieces_append (isBlankList_map_char hbefore)
      (isBlankList_map_char hbehind) htrimmed, flatMap_bytes_pieces]
  · rintro rfl
    exact isCore_trim text

/-- Nothing is left of white space, and of nothing else. -/
theorem trim_eq_nil_iff {text : Bytes} : trim text = [] ↔ IsBlankText text := by
  rw [← isCore_iff]
  constructor
  · rintro ⟨⟨front, back, rfl, hfront, hback⟩, -, -⟩
    rw [List.append_nil]
    exact hfront.append hback
  · intro hblank
    refine ⟨⟨text, [], ?_, hblank, isBlankText_nil⟩, fun c _ ↦ ?_, fun c _ ↦ ?_⟩
    · rw [List.append_nil, List.append_nil]
    · exact mt List.prefix_nil.mp (encodeChar_ne_nil c)
    · exact mt List.suffix_nil.mp (encodeChar_ne_nil c)

/-- Assumes: white space in front of and behind a text. It changes nothing of what is left. -/
theorem trim_append {front back : Bytes} (hfront : IsBlankText front) (hback : IsBlankText back)
    (text : Bytes) : trim (front ++ text ++ back) = trim text := by
  obtain ⟨⟨before, behind, htext, hbefore, hbehind⟩, hhead, hlast⟩ := isCore_trim text
  refine isCore_iff.mp ⟨⟨front ++ before, behind ++ back, ?_, hfront.append hbefore,
    hbehind.append hback⟩, hhead, hlast⟩
  nth_rewrite 1 [htext]
  simp only [List.append_assoc]

/-- Assumes: white space around characters that are no white space. Trimming leaves those
characters. -/
theorem trim_chars {front back : Bytes} (hfront : IsBlankText front) (hback : IsBlankText back)
    {chars : List Char} (hchars : ∀ c ∈ chars, isBlank c = false) :
    trim (front ++ chars.flatMap encodeChar ++ back) = chars.flatMap encodeChar := by
  have hpieces : pieces (chars.flatMap encodeChar) = chars.map .char :=
    pieces_eq_map_char_iff.mpr rfl
  have hblank : ∀ piece ∈ chars.map Piece.char, piece.isBlank = false := by
    intro piece hmem
    obtain ⟨c, hc, rfl⟩ := List.mem_map.mp hmem
    exact hchars c hc
  have htrimmed : IsTrimmed (pieces (chars.flatMap encodeChar)) := by
    rw [hpieces]
    exact ⟨fun piece hmem ↦ hblank piece (List.mem_of_mem_head? hmem),
      fun piece hmem ↦ hblank piece (List.mem_of_mem_getLast? hmem)⟩
  obtain ⟨hhead, hlast⟩ := isTrimmed_pieces_iff.mp htrimmed
  exact isCore_iff.mp ⟨⟨front, back, rfl, hfront, hback⟩, hhead, hlast⟩

end Invocation.Text
