import Invocation.Log.Logger
import Invocation.Proofs.PrintableText

/-!
# The lines of the log

Values that the user chose are written into log records, and a value may hold newlines, control
characters and text that looks like something else. `IsQuiet` says what the log makes of it: every
line is clean and does not begin like the name of the program. It holds of each part of a record
and is kept when parts are put together (`IsQuiet.append`), also where a line goes on from one part
to the next.

`Record.isQuiet_text` says that a record is quiet whatever its values are, and
`Record.isWhole_text` that it ends with the end of a line. So whatever is written behind a record
has lines of its own (`IsWhole.exists_lines`).
-/

set_option autoImplicit false
set_option relaxedAutoImplicit false

namespace Invocation.Text

/-! ### Lines of texts that are put together -/

/-- The last line of a text goes on with the first line of the text behind it, and all other lines
stay as they are. -/
theorem lines_append {first second : Bytes} {front others : List Bytes} {last head : Bytes}
    (hfirst : lines first = front ++ [last]) (hsecond : lines second = head :: others) :
    lines (first ++ second) = front ++ (last ++ head) :: others := by
  induction first generalizing front last with
  | nil =>
    obtain ⟨rfl, rfl⟩ : front = [] ∧ last = [] := by
      cases front with
      | nil => exact ⟨rfl, (List.cons.inj hfirst).1.symm⟩
      | cons line front => simp [lines] at hfirst
    exact hsecond
  | cons byte rest ih =>
    obtain ⟨line, more, hlines⟩ := List.exists_cons_of_ne_nil (lines_ne_nil rest)
    by_cases hnewline : byte = newline
    · rw [lines, if_pos hnewline] at hfirst
      rw [List.cons_append, lines, if_pos hnewline]
      cases front with
      | nil =>
        rw [hlines] at hfirst
        cases hfirst
      | cons start front =>
        obtain ⟨rfl, hrest⟩ := List.cons.inj hfirst
        rw [ih hrest]
        rfl
    · rw [lines, if_neg hnewline, hlines, extendFirst] at hfirst
      rw [List.cons_append, lines, if_neg hnewline]
      cases front with
      | nil =>
        obtain ⟨rfl, rfl⟩ := List.cons.inj hfirst
        have hrest : lines rest = [] ++ [line] := hlines
        rw [ih hrest]
        rfl
      | cons start front =>
        obtain ⟨rfl, rfl⟩ := List.cons.inj hfirst
        have hrest : lines rest = (line :: front) ++ [last] := hlines
        rw [ih hrest]
        rfl

/-- A text without newlines is one line. -/
theorem lines_of_newline_not_mem {text : Bytes} (hmem : newline ∉ text) : lines text = [text] := by
  induction text with
  | nil => rfl
  | cons byte rest ih =>
    obtain ⟨hbyte, hrest⟩ := not_or.mp (mt List.mem_cons.mpr hmem)
    rw [lines, if_neg (Ne.symm hbyte), ih hrest]
    rfl

theorem lines_of_isClean {text : Bytes} (hclean : IsClean text) : lines text = [text] :=
  lines_of_newline_not_mem hclean.newline_not_mem

theorem exists_lines_eq_concat (text : Bytes) : ∃ front last, lines text = front ++ [last] :=
  ⟨_, _, (List.dropLast_concat_getLast (lines_ne_nil text)).symm⟩

/-- What stands behind a newline has lines of its own. -/
theorem lines_append_newline (first second : Bytes) :
    lines (first ++ newline :: second) = lines first ++ lines second := by
  obtain ⟨front, last, hlines⟩ := exists_lines_eq_concat first
  have hsecond : lines (newline :: second) = [] :: lines second := rfl
  rw [lines_append hlines hsecond, hlines, List.append_nil, List.append_assoc]
  rfl

/-! ### Quiet texts -/

/-- Whether a line is clean and does not begin like the name of the program. -/
def IsQuietLine (line : Bytes) : Prop :=
  IsClean line ∧ line.head? ≠ some (ascii 'p')

/-- Whether all lines of a text are clean and none begins like the name of the program. -/
def IsQuiet (text : Bytes) : Prop :=
  ∀ line ∈ lines text, IsQuietLine line

/-- A quiet line stays quiet when another one is put behind it. -/
theorem IsQuietLine.append {first second : Bytes} (hfirst : IsQuietLine first)
    (hsecond : IsQuietLine second) : IsQuietLine (first ++ second) := by
  refine ⟨hfirst.1.append hsecond.1, ?_⟩
  cases first with
  | nil => exact hsecond.2
  | cons byte rest => exact hfirst.2

/-- Quiet texts may be put together, whether or not the first one ends its last line. -/
theorem IsQuiet.append {first second : Bytes} (hfirst : IsQuiet first) (hsecond : IsQuiet second) :
    IsQuiet (first ++ second) := by
  obtain ⟨front, last, hsplit⟩ := exists_lines_eq_concat first
  obtain ⟨head, others, hlines⟩ := List.exists_cons_of_ne_nil (lines_ne_nil second)
  unfold IsQuiet at hfirst hsecond ⊢
  rw [hsplit, List.forall_mem_append, List.forall_mem_singleton] at hfirst
  rw [hlines, List.forall_mem_cons] at hsecond
  rw [lines_append hsplit hlines, List.forall_mem_append, List.forall_mem_cons]
  exact ⟨hfirst.1, hfirst.2.append hsecond.1, hsecond.2⟩

theorem isQuiet_newline : IsQuiet [newline] := by
  have hnil : IsQuietLine [] := ⟨isClean_nil, by decide⟩
  exact List.forall_mem_cons.mpr ⟨hnil, List.forall_mem_singleton.mpr hnil⟩

theorem isQuiet_of_isClean {text : Bytes} (hclean : IsClean text)
    (hhead : text.head? ≠ some (ascii 'p')) : IsQuiet text := by
  unfold IsQuiet
  rw [lines_of_isClean hclean, List.forall_mem_singleton]
  exact ⟨hclean, hhead⟩

theorem isQuiet_nil : IsQuiet [] :=
  isQuiet_of_isClean isClean_nil (by decide)

/-- A text on one line behind a space is quiet. -/
theorem isQuiet_space {text : Bytes} (hclean : IsClean text) : IsQuiet (utf8 " " ++ text) :=
  isQuiet_of_isClean (IsClean.append (by decide) hclean) (by change some (ascii ' ') ≠ _; decide)

end Invocation.Text

namespace Invocation

open Text

/-! ### Values -/

namespace Value

theorem isPrintableText_replacement : IsPrintableText replacement :=
  isPrintableText_encodeChar (by decide +kernel : isPrintable '\uFFFD' = true)

theorem isPlain_quotedValue : quotedValue.IsPlain where
  marks := by decide
  stray _ := isPrintableText_replacement

theorem isPlain_barredLine : barredLine.IsPlain where
  marks := rfl
  stray _ := isPrintableText_replacement

theorem isPrintable_of_not_isAwkward {c : Char} (hc : isAwkward c = false) :
    isPrintable c = true := by
  rw [isAwkward, Bool.or_eq_false_iff, Bool.not_eq_false'] at hc
  exact hc.1

/-- An escaped value is clean, also where there was nothing to escape and its stray bytes are left
as they are. -/
theorem isClean_escaped {style : Style} (hplain : style.IsPlain) (text : Bytes) :
    IsClean (escaped style text) := by
  unfold escaped
  split
  · exact (Style.isPrintableText_write hplain text).isClean
  · next hawkward =>
    refine isClean_of_pieces fun piece hpiece ↦ isPrintable_of_not_isAwkward ?_
    rw [List.any_eq_true] at hawkward
    exact Bool.eq_false_iff.mpr fun hc ↦ hawkward ⟨piece, hpiece, hc⟩

theorem isClean_of_not_needsQuotes {value : Bytes} (hquotes : ¬ needsQuotes value = true) :
    IsClean value := by
  refine isClean_of_pieces fun piece hpiece ↦ isPrintable_of_not_isAwkward ?_
  rw [needsQuotes, List.any_eq_true] at hquotes
  refine Bool.eq_false_iff.mpr fun hc ↦ hquotes ⟨piece, hpiece, ?_⟩
  simp only [isMisleading, hc, Bool.true_or]

/-- A line behind a bar is quiet, whatever it says. -/
theorem isQuiet_bar (line : Bytes) : IsQuiet (bar ++ escaped barredLine line) :=
  isQuiet_space (IsClean.append (by decide : IsClean (utf8 " │ "))
    (isClean_escaped isPlain_barredLine line))

theorem isQuiet_barred (isLast : Bool) (list : List Bytes) : IsQuiet (barred isLast list) := by
  fun_induction barred isLast list with
  | case1 => exact isQuiet_nil
  | case2 => exact isQuiet_nil
  | case3 line hline =>
    refine (isQuiet_bar line).append ?_
    cases isLast with
    | true => exact isQuiet_nil
    | false => exact isQuiet_newline
  | case4 line others hothers ih => exact ((isQuiet_bar line).append isQuiet_newline).append ih

end Value

/-! ### Records -/

/-- A field is quiet whatever its value is. Assumes: its key is clean. -/
theorem Field.isQuiet_text {field : Field} (hkey : IsClean field.key) (isLast : Bool) :
    IsQuiet (field.text isLast) := by
  unfold text
  split
  · rw [List.append_assoc]
    exact isQuiet_space (hkey.append (by decide))
  · split
    · -- A newline ends the line before, and the key and each line of the value have their own.
      have hname : IsQuiet (utf8 " " ++ (utf8 " " ++ field.key ++ utf8 "=")) :=
        isQuiet_space ((IsClean.append (by decide) hkey).append (by decide))
      have hvalue := Value.isQuiet_barred isLast (lines field.value)
      have hopen : utf8 "\n  " = [newline] ++ utf8 " " ++ utf8 " " := by decide
      have hclose : utf8 "=\n" = utf8 "=" ++ [newline] := by decide
      rw [hopen, hclose]
      simpa only [List.append_assoc] using
        ((isQuiet_newline.append hname).append isQuiet_newline).append hvalue
    · split
      · have hvalue := Value.isClean_escaped Value.isPlain_quotedValue field.value
        rw [List.append_assoc, List.append_assoc, List.append_assoc]
        exact isQuiet_space (hkey.append (IsClean.append (by decide) (hvalue.append (by decide))))
      · next hquotes =>
        rw [List.append_assoc, List.append_assoc]
        exact isQuiet_space (hkey.append
          (IsClean.append (by decide) (Value.isClean_of_not_needsQuotes hquotes)))

/-- Fields are quiet whatever their values are. Assumes: their keys are clean. -/
theorem isQuiet_fieldsText {fields : List Field} (hkeys : IsClean (fields.flatMap Field.key)) :
    IsQuiet (fieldsText fields) := by
  have hkey : ∀ field ∈ fields, IsClean field.key := fun field hfield byte hbyte ↦
    hkeys byte (List.mem_flatMap.mpr ⟨field, hfield, hbyte⟩)
  clear hkeys
  fun_induction fieldsText fields with
  | case1 => exact isQuiet_nil
  | case2 field => exact Field.isQuiet_text (hkey field List.mem_cons_self) true
  | case3 field others hothers ih =>
    obtain ⟨hfirst, hrest⟩ := List.forall_mem_cons.mp hkey
    exact (Field.isQuiet_text hfirst false).append (ih hrest)

theorem Level.isQuiet_tag (level : Level) : IsQuiet level.tag := by
  cases level <;> exact isQuiet_of_isClean (by decide) (by decide)

/-- A clean message is written as it is, and its record is quiet whatever the values of its fields
are. Assumes: the keys of the fields are clean. -/
theorem Record.isQuiet_text {record : Record} (hmessage : IsClean record.message)
    (hkeys : IsClean (record.fields.flatMap Field.key)) : IsQuiet record.text := by
  have htab : ascii '\t' ∉ record.message := fun hmem ↦ absurd (hmessage _ hmem) (by decide)
  have hbody : IsClean
      (if record.message = [] then [] else utf8 " " ++ expandTabs record.message) := by
    rw [expandTabs_eq_self htab]
    split
    · exact isClean_nil
    · exact IsClean.append (by decide) hmessage
  have hname : IsClean (Program.name ++ utf8 ":") := by decide
  have hheader := (Level.isQuiet_tag record.level).append (isQuiet_space (hname.append hbody))
  unfold text
  simpa only [List.append_assoc] using
    (hheader.append (isQuiet_fieldsText hkeys)).append isQuiet_newline

/-! ### Texts of whole lines -/

/-- Whether a text ends with the end of a line, or is empty. -/
def IsWhole (text : Bytes) : Prop :=
  text = [] ∨ ∃ front, text = front ++ [newline]

theorem IsWhole.append {first second : Bytes} (hfirst : IsWhole first) (hsecond : IsWhole second) :
    IsWhole (first ++ second) := by
  rcases hsecond with rfl | ⟨front, rfl⟩
  · rw [List.append_nil]
    exact hfirst
  · exact Or.inr ⟨first ++ front, (List.append_assoc _ _ _).symm⟩

theorem Record.isWhole_text (record : Record) : IsWhole record.text :=
  Or.inr ⟨_, rfl⟩

/-- What stands behind whole lines has lines of its own. -/
theorem IsWhole.exists_lines {text : Bytes} (hwhole : IsWhole text) :
    ∃ front, lines text = front ++ [[]] ∧
      ∀ more, lines (text ++ more) = front ++ lines more := by
  rcases hwhole with rfl | ⟨front, rfl⟩
  · exact ⟨[], rfl, fun more ↦ rfl⟩
  · refine ⟨lines front, lines_append_newline front [], fun more ↦ ?_⟩
    rw [List.append_assoc]
    exact lines_append_newline front more

end Invocation
