import Invocation.Proofs.SummaryLine

/-!
# The tables agree

The words of the command line, the numbers of callers and the texts that are shown are kept in many
small tables, and each part of the program looks into some of them. A word is looked up by
`Mode.ofKeyword?` and `Target.ofName?`, a number by `Mode.isNumber`, `Mode.stageAt?`,
`Mode.targetAt?` and `Target.modeAt?`, and what is shown for a number is `Mode.labelAt`,
`Stage.keywordAt` and `Target.nameAt`. Any word and any number may be asked for.

What they have in common is said once for a numbered type (`shown_eq_iff`,
`shown_ne_unknown_iff`): if no two values are shown alike and none is shown as an unknown one, the
text that a number shows tells the number. `tables_agree` draws up what follows for the words, the
numbers and the texts.
-/

set_option autoImplicit false
set_option relaxedAutoImplicit false

namespace Invocation

open Grammar

/-! ### Numbers and texts -/

section Numbered

variable {α : Type} [DecidableEq α] [Numbered α]

/-- Whether a look-up finds the value with a number. -/
def Finds (found : Option α) (n : Int) : Prop :=
  found.isSome = true ∧ Numbered.number found = n

theorem finds_iff {found : Option α} {n : Int} :
    Finds found n ↔ ∃ value, found = some value ∧ n = Numbered.number (some value) := by
  constructor
  · rintro ⟨hsome, rfl⟩
    obtain ⟨value, rfl⟩ := Option.isSome_iff_exists.mp hsome
    exact ⟨value, rfl, rfl⟩
  · rintro ⟨value, rfl, rfl⟩
    exact ⟨rfl, rfl⟩

/-- Zero is the number of nothing, and of nothing else. -/
theorem number_ne_zero_iff {found : Option α} :
    Numbered.number found ≠ 0 ↔ found.isSome = true := by
  cases found with
  | none => simp [Numbered.number]
  | some value =>
    rw [Numbered.number_some]
    simp only [Option.isSome_some, iff_true]
    omega

variable {shown : α → Bytes}

omit [DecidableEq α] in
/-- Assumes: values that are shown, none of them as an unknown one. A number shows the text for
unknown ones exactly if it belongs to no value. -/
theorem shown_ne_unknown_iff (hknown : ∀ value, shown value ≠ unknownLabel) {n : Int} :
    ((Numbered.ofNumber? n).map shown).getD unknownLabel ≠ unknownLabel ↔
      (Numbered.ofNumber? n : Option α).isSome = true := by
  cases (Numbered.ofNumber? n : Option α) with
  | none => simp
  | some value => simpa using hknown value

/-- Assumes: values of which no two are shown alike, and none as an unknown one. The only number
that shows the text of a value is its own. -/
theorem shown_eq_iff (hinjective : ∀ {first second}, shown first = shown second → first = second)
    (hknown : ∀ value, shown value ≠ unknownLabel) {n : Int} {value : α} :
    ((Numbered.ofNumber? n).map shown).getD unknownLabel = shown value ↔
      n = Numbered.number (some value) := by
  rw [← Numbered.ofNumber?_eq_some_iff]
  cases (Numbered.ofNumber? n : Option α) with
  | none => simpa using (hknown value).symm
  | some found =>
    simp only [Option.map_some, Option.getD_some, Option.some.injEq]
    exact ⟨hinjective, fun heq ↦ heq ▸ rfl⟩

end Numbered

/-- Assumes: a list of all values of a type. A text is in the list of their names exactly when it is
a name. -/
theorem mem_map_iff_exists {α : Type} {all : List α} (hall : ∀ value, value ∈ all)
    {name : α → Bytes} {text : Bytes} : text ∈ all.map name ↔ ∃ value, name value = text := by
  simp only [List.mem_map, hall, true_and]

/-! ### Modes -/

theorem Mode.label_ne_unknown (mode : Mode) : mode.label ≠ unknownLabel := by
  rcases mode with _ | _ | target
  · decide
  · decide
  · cases target <;> decide

theorem Mode.label_injective {first second : Mode} (heq : first.label = second.label) :
    first = second := by
  have hfound := Mode.ofLabel?_label first
  rw [heq, Mode.ofLabel?_label] at hfound
  exact (Option.some.inj hfound).symm

theorem Mode.labelAt_eq_label_iff {n : Int} {mode : Mode} :
    labelAt n = mode.label ↔ n = Numbered.number (some mode) :=
  shown_eq_iff Mode.label_injective Mode.label_ne_unknown

theorem Mode.isNumber_iff_labelAt_ne {n : Int} : isNumber n = true ↔ labelAt n ≠ unknownLabel :=
  (shown_ne_unknown_iff Mode.label_ne_unknown).symm

/-- A number belongs to a mode exactly if it has a stage. -/
theorem Mode.isNumber_iff_stageAt? {n : Int} :
    isNumber n = true ↔ Numbered.number (stageAt? n) ≠ 0 := by
  rw [number_ne_zero_iff, stageAt?, Option.isSome_map, isNumber]

/-- No two numbers of modes show the same label. -/
theorem Mode.labelAt_injOn {first second : Int} (hsecond : isNumber second = true)
    (heq : labelAt first = labelAt second) : first = second := by
  obtain ⟨mode, rfl⟩ := Mode.isNumber_iff.mp hsecond
  rw [Mode.labelAt_number] at heq
  exact Mode.labelAt_eq_label_iff.mp heq

/-! ### Keywords -/

theorem Mode.ofKeyword?_eq_some_iff {text : Bytes} {mode : Mode} :
    ofKeyword? text = some mode ↔ ∃ stage, Stage.keyword stage = text ∧ stage.baseMode = mode := by
  simp only [ofKeyword?, Option.map_eq_some_iff, Stage.ofKeyword?_eq_some_iff]

/-- A word is found among the modes exactly when it is shown among the keywords. -/
theorem Mode.isSome_ofKeyword?_iff {text : Bytes} :
    (ofKeyword? text).isSome = true ↔ text ∈ Stage.all.map Stage.keyword := by
  rw [ofKeyword?, Option.isSome_map, Option.isSome_iff_exists,
    mem_map_iff_exists Stage.mem_all]
  simp only [Stage.ofKeyword?_eq_some_iff]

/-- The mode that a stage stands for has a target only where the stage compiles, and it is the first
of all. -/
theorem Stage.target?_baseMode_eq_some_iff {stage : Stage} {target : Target} :
    stage.baseMode.target? = some target ↔ stage = .compile ∧ Target.all.head? = some target := by
  cases stage with
  | lex => simp [baseMode, Mode.target?]
  | parse => simp [baseMode, Mode.target?]
  | compile => exact (and_iff_right rfl).symm

/-! ### Targets -/

theorem Target.name_ne_unknown (target : Target) : target.name ≠ unknownLabel := by
  cases target <;> decide

theorem Target.nameAt_eq_name_iff {n : Int} {target : Target} :
    nameAt n = target.name ↔ n = Numbered.number (some target) :=
  shown_eq_iff name_injective Target.name_ne_unknown

/-- A word finds the target with a number exactly when it is shown among the targets and that number
shows it. -/
theorem Target.finds_ofName?_iff {text : Bytes} {n : Int} :
    Finds (ofName? text) n ↔ text ∈ all.map name ∧ nameAt n = text := by
  rw [finds_iff, mem_map_iff_exists Target.mem_all]
  constructor
  · rintro ⟨target, hfound, rfl⟩
    obtain rfl := Target.ofName?_eq_some_iff.mp hfound
    exact ⟨⟨target, rfl⟩, Target.nameAt_number target⟩
  · rintro ⟨⟨target, rfl⟩, hshown⟩
    exact ⟨target, Target.ofName?_eq_some_iff.mpr rfl, Target.nameAt_eq_name_iff.mp hshown⟩

theorem Mode.target?_eq_some_iff {mode : Mode} {target : Target} :
    mode.target? = some target ↔ mode = .compile target := by
  cases mode <;> simp [target?]

/-- A mode compiles for a target exactly when it is the mode of that target, both by number. -/
theorem Mode.finds_targetAt?_iff {n t : Int} :
    Finds (targetAt? n) t ↔ n ≠ 0 ∧ Numbered.number (Target.modeAt? t) = n := by
  rw [finds_iff]
  constructor
  · rintro ⟨target, hfound, rfl⟩
    obtain ⟨mode, hmode, htarget⟩ := Option.bind_eq_some_iff.mp hfound
    obtain rfl := Mode.target?_eq_some_iff.mp htarget
    obtain rfl := Numbered.ofNumber?_eq_some_iff.mp hmode
    refine ⟨number_ne_zero_iff.mpr rfl, ?_⟩
    rw [Target.modeAt?, Numbered.ofNumber?_number]
    rfl
  · rintro ⟨hzero, rfl⟩
    obtain ⟨mode, hmode⟩ := Option.isSome_iff_exists.mp (number_ne_zero_iff.mp hzero)
    obtain ⟨target, htarget, rfl⟩ := Option.map_eq_some_iff.mp hmode
    refine ⟨target, ?_, Numbered.ofNumber?_eq_some_iff.mp htarget⟩
    rw [hmode, Mode.targetAt?_number]
    rfl

/-! ### All tables -/

/-- Assumes: a keyword that finds a mode by number. The number belongs to a mode whose stage shows
the keyword. It has a target only behind the keyword for compiling, and that is the first one
shown. -/
theorem Mode.finds_ofKeyword? {text : Bytes} {n : Int} (hfound : Finds (ofKeyword? text) n) :
    isNumber n = true ∧ Stage.keywordAt (Numbered.number (stageAt? n)) = text ∧
      ((targetAt? n).isSome = true ↔ text = utf8 "com") ∧
      ∀ t, Finds (targetAt? n) t → (Target.all.map Target.name).head? = some (Target.nameAt t) := by
  obtain ⟨mode, hmode, rfl⟩ := finds_iff.mp hfound
  obtain ⟨stage, rfl, rfl⟩ := Mode.ofKeyword?_eq_some_iff.mp hmode
  rw [Mode.targetAt?_number, Mode.stageAt?_number, Stage.stage_baseMode, Stage.keywordAt_number]
  refine ⟨Mode.isNumber_iff.mpr ⟨_, rfl⟩, rfl, ?_, ?_⟩
  · rw [keyword_eq_com_iff, Option.isSome_iff_exists]
    simp only [Stage.target?_baseMode_eq_some_iff]
    exact ⟨fun ⟨_, hstage, _⟩ ↦ hstage, fun hstage ↦ ⟨_, hstage, rfl⟩⟩
  · intro t hfinds
    obtain ⟨target, htarget, rfl⟩ := finds_iff.mp hfinds
    rw [List.head?_map, (Stage.target?_baseMode_eq_some_iff.mp htarget).2, Target.nameAt_number]
    rfl

/-- The tables agree for every word and all numbers. A word finds a mode exactly when it is among
the keywords that are shown, and then the mode is one of its stage, with a target only behind the
keyword for compiling, which is the first target shown. A word finds a target exactly when it is
among the targets that are shown and the number of the target shows it. The target of a mode and the
mode of a target undo each other. The numbers of modes are those with a stage and those with a label
of their own, and no two of them share a label. -/
theorem tables_agree (text : Bytes) (m t : Int) :
    ((Mode.ofKeyword? text).isSome = true ↔ text ∈ Stage.all.map Stage.keyword) ∧
    (∀ n, Finds (Mode.ofKeyword? text) n →
      Mode.isNumber n = true ∧ Stage.keywordAt (Numbered.number (Mode.stageAt? n)) = text ∧
        ((Mode.targetAt? n).isSome = true ↔ text = utf8 "com") ∧
        ∀ k, Finds (Mode.targetAt? n) k →
          (Target.all.map Target.name).head? = some (Target.nameAt k)) ∧
    (Finds (Target.ofName? text) t ↔
      text ∈ Target.all.map Target.name ∧ Target.nameAt t = text) ∧
    (Finds (Mode.targetAt? m) t ↔ m ≠ 0 ∧ Numbered.number (Target.modeAt? t) = m) ∧
    (Mode.isNumber m = true ↔ Numbered.number (Mode.stageAt? m) ≠ 0) ∧
    (Mode.isNumber m = true ↔ Mode.labelAt m ≠ utf8 "unknown") ∧
    ∀ n, Mode.isNumber m = true → Mode.isNumber n = true → Mode.labelAt m = Mode.labelAt n →
      m = n :=
  ⟨Mode.isSome_ofKeyword?_iff, fun _ ↦ Mode.finds_ofKeyword?, Target.finds_ofName?_iff,
    Mode.finds_targetAt?_iff, Mode.isNumber_iff_stageAt?, Mode.isNumber_iff_labelAt_ne,
    fun _ _ hsecond heq ↦ Mode.labelAt_injOn hsecond heq⟩

/-- The keyword for compiling finds the third mode, which is for the first target, and the fourth
mode is shown unlike the fifth. -/
theorem tables_agree_compile :
    (Finds (Mode.ofKeyword? (utf8 "com")) 3 ∧ Mode.isNumber 3 = true ∧
      Stage.keywordAt (Numbered.number (Mode.stageAt? 3)) = utf8 "com") ∧
    (Finds (Mode.targetAt? 3) 1 ∧
      (Target.all.map Target.name).head? = some (Target.nameAt 1)) ∧
    Mode.isNumber 4 = true ∧ Mode.isNumber 5 = true ∧ Mode.labelAt 4 ≠ Mode.labelAt 5 := by
  have hkeyword : Finds (Mode.ofKeyword? (utf8 "com")) 3 := ⟨rfl, rfl⟩
  have htarget : Finds (Mode.targetAt? 3) 1 := ⟨rfl, rfl⟩
  have hfourth : Mode.isNumber 4 = true := rfl
  have hfifth : Mode.isNumber 5 = true := rfl
  obtain ⟨-, hmode, -, -, -, -, hlabels⟩ := tables_agree (utf8 "com") 4 0
  obtain ⟨hnumber, hstage, -, hfirst⟩ := hmode 3 hkeyword
  refine ⟨⟨hkeyword, hnumber, hstage⟩, ⟨htarget, hfirst 1 htarget⟩, hfourth, hfifth, ?_⟩
  intro hsame
  exact absurd (hlabels 5 hfourth hfifth hsame) (by decide)

end Invocation
