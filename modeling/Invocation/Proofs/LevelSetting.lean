import Mathlib.Data.List.Forall2
import Invocation.Log.Logger
import Invocation.Proofs.Trimming

/-!
# Which settings select a level

The setting that selects a log level may be any bytes. `Selects` says without decoding, trimming or
changing the case of anything which settings are silently taken: white space, which selects
warnings, and the name of a level with white space around it. The letters of the name may be small
or capital, and the dotted capital I passes for the letter i (`LetterFor`). The Kelvin sign, which
would pass for a k, does not count because no name has one.

`setting_read_exactly` says that the logger takes those settings and no others, that it reports any
other setting once with its core, and that white space around a setting makes no difference.
-/

set_option autoImplicit false
set_option relaxedAutoImplicit false

namespace Invocation

open Text

/-! ### Letters -/

/-- Whether a character may be written for a small letter. -/
def LetterFor (c letter : Char) : Prop :=
  c = letter ∨ c = letter.toUpper ∨ (c = '\u0130' ∧ letter = 'i')

/-- Whether a character is a small letter for which the Kelvin sign cannot be written. -/
def IsNameLetter (letter : Char) : Prop :=
  'a' ≤ letter ∧ letter ≤ 'z' ∧ letter ≠ 'k'

instance (letter : Char) : Decidable (IsNameLetter letter) :=
  inferInstanceAs (Decidable (_ ∧ _ ∧ _))

theorem char_le_iff {first second : Char} : first ≤ second ↔ first.toNat ≤ second.toNat :=
  UInt32.le_iff_toNat_le

/-- A capital letter stands 32 places before its small letter. -/
theorem toNat_toUpper {letter : Char} (hlow : 'a' ≤ letter) (hhigh : letter ≤ 'z') :
    letter.toUpper.toNat + 0x20 = letter.toNat := by
  have hdistance : ('A'.val - 'a'.val).toNat = 0x100000000 - 0x20 := by decide
  have hbounds : 'a'.toNat ≤ letter.toNat ∧ letter.toNat ≤ 'z'.toNat :=
    ⟨char_le_iff.mp hlow, char_le_iff.mp hhigh⟩
  have hupper : letter.toUpper = _ := dif_pos ⟨hlow, hhigh⟩
  rw [hupper]
  change (letter.val + ('A'.val - 'a'.val)).toNat + 0x20 = letter.val.toNat
  change 0x61 ≤ letter.val.toNat ∧ letter.val.toNat ≤ 0x7A at hbounds
  rw [UInt32.toNat_add, hdistance]
  omega

/-- The small form of a character by number. -/
theorem toNat_smallLetter (c : Char) :
    (smallLetter c).toNat =
      if 0x41 ≤ c.toNat ∧ c.toNat ≤ 0x5A then c.toNat + 0x20
      else if c.toNat = 0x130 then 0x69
      else if c.toNat = 0x212A then 0x6B
      else c.toNat := by
  have hcapital : ('A' ≤ c ∧ c ≤ 'Z') ↔ 0x41 ≤ c.toNat ∧ c.toNat ≤ 0x5A :=
    and_congr char_le_iff char_le_iff
  have hdotted : c = '\u0130' ↔ c.toNat = 0x130 := Char.toNat_inj.symm
  have hkelvin : c = '\u212A' ↔ c.toNat = 0x212A := Char.toNat_inj.symm
  simp only [smallLetter, hcapital, hdotted, hkelvin]
  split_ifs with hrange
  · exact toNat_ofNat (Or.inl (by omega))
  · rfl
  · rfl
  · rfl

/-- The characters whose small form is a letter of a name are those that may be written for it. -/
theorem smallLetter_eq_iff {c letter : Char} (hletter : IsNameLetter letter) :
    smallLetter c = letter ↔ LetterFor c letter := by
  obtain ⟨hlow, hhigh, hkelvin⟩ := hletter
  have hupper := toNat_toUpper hlow hhigh
  have hbounds : 0x61 ≤ letter.toNat ∧ letter.toNat ≤ 0x7A :=
    ⟨char_le_iff.mp hlow, char_le_iff.mp hhigh⟩
  have hnumber : letter.toNat ≠ 0x6B := fun heq ↦ hkelvin (Char.toNat_inj.mp heq)
  have hdotted : ('\u0130').toNat = 0x130 := rfl
  have hletter : ('i').toNat = 0x69 := rfl
  unfold LetterFor
  simp only [← Char.toNat_inj, toNat_smallLetter, hdotted, hletter]
  split_ifs <;> omega

/-! ### Names -/

/-- Whether a text spells a name character by character. -/
def Spells (text : Bytes) (name : String) : Prop :=
  ∃ chars : List Char, List.Forall₂ LetterFor chars name.toList ∧ chars.flatMap encodeChar = text

/-- The names of the levels are made of letters that no other character than the dotted capital I
passes for. -/
theorem Level.isNameLetter_of_mem (level : Level) :
    ∀ letter ∈ level.name.toList, IsNameLetter letter := by
  have hall : level.name.toList.all (IsNameLetter ·) = true := by
    cases level <;> decide
  intro letter hmem
  exact of_decide_eq_true (List.all_eq_true.mp hall letter hmem)

/-- A piece shows a letter of a name in its small form only if it is a character that may be written
for that letter. -/
theorem smallLetter_shown_eq_iff {piece : Piece} {letter : Char} (hletter : IsNameLetter letter) :
    smallLetter piece.shown = letter ↔ ∃ c, LetterFor c letter ∧ piece = .char c := by
  cases piece with
  | char c =>
    rw [Piece.shown, smallLetter_eq_iff hletter]
    constructor
    · intro hc
      exact ⟨c, hc, rfl⟩
    · rintro ⟨other, hother, heq⟩
      cases heq
      exact hother
  | stray byte =>
    constructor
    · -- A stray byte shows the replacement character, which is no letter in any case.
      rintro rfl
      change IsNameLetter (smallLetter '\uFFFD') at hletter
      exact absurd hletter (by decide)
    · rintro ⟨c, -, heq⟩
      cases heq

/-- Pieces show the letters of a name exactly when they are characters that may be written for
them. -/
theorem map_smallLetter_eq_iff {list : List Piece} {letters : List Char}
    (hletters : ∀ letter ∈ letters, IsNameLetter letter) :
    (list.map fun piece ↦ smallLetter piece.shown) = letters ↔
      ∃ chars, List.Forall₂ LetterFor chars letters ∧ list = chars.map .char := by
  induction letters generalizing list with
  | nil =>
    rw [List.map_eq_nil_iff]
    constructor
    · rintro rfl
      exact ⟨[], .nil, rfl⟩
    · rintro ⟨chars, hchars, rfl⟩
      rw [List.forall₂_nil_right_iff.mp hchars]
      rfl
  | cons letter letters ih =>
    obtain ⟨hletter, hletters⟩ := List.forall_mem_cons.mp hletters
    rw [List.map_eq_cons_iff]
    constructor
    · rintro ⟨piece, rest, rfl, hpiece, hrest⟩
      obtain ⟨c, hc, rfl⟩ := (smallLetter_shown_eq_iff hletter).mp hpiece
      obtain ⟨chars, hchars, rfl⟩ := (ih hletters).mp hrest
      exact ⟨c :: chars, .cons hc hchars, rfl⟩
    · rintro ⟨chars, hchars, rfl⟩
      obtain ⟨c, rest, hc, hrest, rfl⟩ := List.forall₂_cons_right_iff.mp hchars
      exact ⟨.char c, rest.map .char, rfl, (smallLetter_shown_eq_iff hletter).mpr ⟨c, hc, rfl⟩,
        (ih hletters).mpr ⟨rest, hrest, rfl⟩⟩

/-- A name finds a level exactly when it spells the name of that level. -/
theorem Level.ofName?_eq_some_iff {text : Bytes} {level : Level} :
    ofName? text = some level ↔ Spells text level.name := by
  have hfind : ofName? text = some level ↔
      ((pieces text).map fun piece ↦ smallLetter piece.shown) = level.name.toList := by
    unfold ofName?
    dsimp only
    constructor
    · intro hfound
      have hname := List.find?_some hfound
      exact (of_decide_eq_true hname).symm
    · intro hspelling
      rw [hspelling]
      cases level <;> decide
  rw [hfind, map_smallLetter_eq_iff level.isNameLetter_of_mem]
  exact exists_congr fun chars ↦ and_congr_right' pieces_eq_map_char_iff

/-- What is written for a letter of a name is not white space. -/
theorem LetterFor.isBlank_eq_false {c letter : Char} (hc : LetterFor c letter)
    (hletter : IsNameLetter letter) : isBlank c = false := by
  have hranges : ∀ range ∈ blankRanges, (range.2 < 0x41 ∨ 0x7A < range.1) ∧
      (range.2 < 0x130 ∨ 0x130 < range.1) := by decide
  have hupper := toNat_toUpper hletter.1 hletter.2.1
  have hbounds : 0x61 ≤ letter.toNat ∧ letter.toNat ≤ 0x7A :=
    ⟨char_le_iff.mp hletter.1, char_le_iff.mp hletter.2.1⟩
  refine Bool.eq_false_iff.mpr fun hblank ↦ ?_
  obtain ⟨range, hrange, hfirst, hlast⟩ := covered_iff.mp hblank
  obtain ⟨hletters, hdotted⟩ := hranges range hrange
  rcases hc with rfl | rfl | ⟨rfl, -⟩
  · omega
  · omega
  · change range.1 ≤ 0x130 at hfirst
    change 0x130 ≤ range.2 at hlast
    omega

theorem isBlank_eq_false_of_forall₂ {chars letters : List Char}
    (hchars : List.Forall₂ LetterFor chars letters)
    (hletters : ∀ letter ∈ letters, IsNameLetter letter) : ∀ c ∈ chars, isBlank c = false := by
  induction hchars with
  | nil => exact fun _ hmem ↦ absurd hmem List.not_mem_nil
  | cons hc _ ih =>
    obtain ⟨hletter, hletters⟩ := List.forall_mem_cons.mp hletters
    exact List.forall_mem_cons.mpr ⟨hc.isBlank_eq_false hletter, ih hletters⟩

/-- Assumes: white space around the name of a level. Trimming leaves the name. -/
theorem Spells.trim_append {front name back : Bytes} {level : Level}
    (hname : Spells name level.name) (hfront : IsBlankText front) (hback : IsBlankText back) :
    trim (front ++ name ++ back) = name := by
  obtain ⟨chars, hchars, rfl⟩ := hname
  exact trim_chars hfront hback
    (isBlank_eq_false_of_forall₂ hchars level.isNameLetter_of_mem)

/-! ### Settings -/

/-- Whether a setting is one that selects a level. -/
def Selects (setting : Bytes) (level : Level) : Prop :=
  (IsBlankText setting ∧ level = .warn) ∨
    ∃ front name back, setting = front ++ name ++ back ∧ IsBlankText front ∧ IsBlankText back ∧
      Spells name level.name

/-- What is left of a setting by trimming decides what it selects. -/
theorem selects_iff {setting : Bytes} {level : Level} :
    Selects setting level ↔
      (trim setting = [] ∧ level = .warn) ∨ Level.ofName? (trim setting) = some level := by
  rw [trim_eq_nil_iff, Level.ofName?_eq_some_iff]
  refine or_congr_right ⟨?_, ?_⟩
  · rintro ⟨front, name, back, rfl, hfront, hback, hname⟩
    rwa [hname.trim_append hfront hback]
  · intro hname
    obtain ⟨⟨front, back, hsetting, hfront, hback⟩, -, -⟩ := isCore_trim setting
    exact ⟨front, trim setting, back, hsetting, hfront, hback, hname⟩

/-- No level has an empty name. -/
theorem Level.ofName?_nil : ofName? [] = none := by
  decide

theorem Record.text_ne_nil (record : Record) : record.text ≠ [] :=
  List.append_ne_nil_of_right_ne_nil _ (List.cons_ne_nil _ _)

/-- Assumes: a setting that selects a level. The logger takes it and writes nothing. -/
theorem Logger.read_of_selects {setting : Bytes} {level : Level}
    (hselects : Selects setting level) :
    ofSetting setting = ⟨level⟩ ∧ notice setting = [] := by
  rcases selects_iff.mp hselects with ⟨hblank, rfl⟩ | hname
  · rw [ofSetting, notice, hblank, Level.ofName?_nil]
    exact ⟨rfl, rfl⟩
  · rw [ofSetting, notice, hname]
    exact ⟨rfl, ite_self _⟩

/-- Assumes: a setting that selects no level. The logger falls back and reports what trimming
leaves of the setting. -/
theorem Logger.read_of_not_selects {setting : Bytes} (hselects : ∀ level, ¬ Selects setting level) :
    ofSetting setting = fallback ∧ notice setting = (ignoredSetting (trim setting)).text := by
  have hblank : trim setting ≠ [] := fun hblank ↦
    hselects .warn (selects_iff.mpr (Or.inl ⟨hblank, rfl⟩))
  have hname : Level.ofName? (trim setting) = none :=
    Option.eq_none_iff_forall_ne_some.mpr fun level hname ↦
      hselects level (selects_iff.mpr (Or.inr hname))
  rw [ofSetting, notice, hname, if_neg hblank]
  exact ⟨rfl, rfl⟩

/-- The setting of the log level is read exactly. The logger writes nothing and takes a level for
its threshold exactly when the setting selects that level. For any other setting the threshold is
that of warnings, and one record is written, a warning that shows the one core of the setting as it
is. White space at either end of a setting makes no difference. -/
theorem setting_read_exactly (setting : Bytes) :
    (∀ level, Logger.notice setting = [] ∧ (Logger.ofSetting setting).threshold = level ↔
      Selects setting level) ∧
    ((∀ level, ¬ Selects setting level) →
      (Logger.ofSetting setting).threshold = .warn ∧
      ∃ value, (∀ core, IsCore setting core ↔ core = value) ∧
        Logger.notice setting = Record.text ⟨.warn, utf8 "ignoring log level",
          [⟨utf8 "env", utf8 "PEACOCK_LOG"⟩, ⟨utf8 "value", value⟩]⟩) ∧
    ∀ front back, IsBlankText front → IsBlankText back →
      Logger.ofSetting (front ++ setting ++ back) = Logger.ofSetting setting ∧
        Logger.notice (front ++ setting ++ back) = Logger.notice setting := by
  refine ⟨fun level ↦ ⟨?_, fun hselects ↦ ?_⟩, fun hselects ↦ ?_, fun front back hfront hback ↦ ?_⟩
  · rintro ⟨hsilent, rfl⟩
    by_contra hother
    -- A setting that selects any other level would have given the threshold that level.
    have hnone : ∀ level, ¬ Selects setting level := by
      intro level hselects
      rw [(Logger.read_of_selects hselects).1] at hother
      exact hother hselects
    rw [(Logger.read_of_not_selects hnone).2] at hsilent
    exact Record.text_ne_nil _ hsilent
  · obtain ⟨hlogger, hnotice⟩ := Logger.read_of_selects hselects
    rw [hlogger]
    exact ⟨hnotice, rfl⟩
  · obtain ⟨hlogger, hnotice⟩ := Logger.read_of_not_selects hselects
    rw [hlogger]
    refine ⟨rfl, trim setting, fun core ↦ ?_, hnotice⟩
    rw [isCore_iff, eq_comm]
  · rw [Logger.ofSetting, Logger.ofSetting, Logger.notice, Logger.notice, trim_append hfront hback]
    exact ⟨rfl, rfl⟩

example : Logger.ofSetting (utf8 "\u3000\u0130NFO ") = ⟨.info⟩ := by
  decide +kernel

/-- The last byte of a no-break space alone is not white space, so it stays at the front of a name
that would have been taken without it. -/
theorem setting_read_exactly_stray :
    let setting := 0xA0 :: utf8 "Info"
    (∀ level, ¬ Selects setting level) ∧ (Logger.ofSetting setting).threshold = .warn ∧
      IsBlankText (utf8 "\u00A0") ∧ IsBlankText (utf8 "\u3000\t") ∧
      Logger.notice (utf8 "\u00A0" ++ setting ++ utf8 "\u3000\t") =
        utf8 "WARN peacock: ignoring log level env=PEACOCK_LOG value=\"" ++ setting ++
          utf8 "\"\n" := by
  intro setting
  obtain ⟨hiff, hother, hspace⟩ := setting_read_exactly setting
  have hnotice : Logger.notice setting =
      utf8 "WARN peacock: ignoring log level env=PEACOCK_LOG value=\"" ++ setting ++
        utf8 "\"\n" := by
    decide +kernel
  have hnone : ∀ level, ¬ Selects setting level := by
    intro level hselects
    have hsilent := ((hiff level).mpr hselects).1
    rw [hnotice] at hsilent
    exact absurd hsilent (by decide)
  have hfront : IsBlankText (utf8 "\u00A0") :=
    ⟨['\u00A0'], List.forall_mem_singleton.mpr (by decide), rfl⟩
  have hback : IsBlankText (utf8 "\u3000\t") :=
    ⟨['\u3000', '\t'],
      List.forall_mem_cons.mpr ⟨by decide, List.forall_mem_singleton.mpr (by decide)⟩, rfl⟩
  refine ⟨hnone, (hother hnone).1, hfront, hback, ?_⟩
  rw [(hspace _ _ hfront hback).2, hnotice]

end Invocation
