import Invocation.Proofs.TableAgreement

/-!
# The tables row by row

The look-ups of this library search the lists that are also shown to the user, and what is known of
a number comes from the value that it counts. So some agreement between them is there by design.
Here each table stands by itself (`Written`): its rows are words and numbers, nothing is shared
between two of them, and there is one more answer for whatever has no row.

`Table.answer_eq` says when such a table answers like a look-up: it has the right answer for every
value that can be found, no row for anything that cannot, and the right answer for all the rest.
From it there is one lemma for each table, for every word or every number that may be asked for.
Whatever is known of the look-ups then holds of the tables that stand by themselves; the last
section says so where the look-ups agree by design, and of the target of a mode.
-/

set_option autoImplicit false
set_option relaxedAutoImplicit false

namespace Invocation

/-! ### Tables and look-ups -/

/-- A table that is written out row by row, with the answer to whatever has no row. -/
structure Table (κ β : Type) where
  rows : List (κ × β)
  other : β

section Answers

variable {κ α β : Type} [DecidableEq κ]

/-- The answer of a table to a question: that of the first row for it. -/
def Table.answer (table : Table κ β) (question : κ) : β :=
  (table.rows.lookup question).getD table.other

/-- Assumes: a look-up that finds a value only by its key; a table with the right answer for the key
of every value, whose rows are for keys only, and with the right answer for nothing. It answers
every question as the look-up does. -/
theorem Table.answer_eq {table : Table κ β} {find : κ → Option α} {key : α → κ}
    (answerOf : Option α → β)
    (hkey : ∀ {question value}, find question = some value → key value = question)
    (hvalue : ∀ value, table.answer (key value) = answerOf (some value))
    (hrows : ∀ row ∈ table.rows, (find row.1).isSome = true)
    (hother : table.other = answerOf none) (question : κ) :
    table.answer question = answerOf (find question) := by
  cases hfound : find question with
  | some value =>
    rw [← hkey hfound]
    exact hvalue value
  | none =>
    -- A row for the question would be one for something that can be found.
    have hlookup : table.rows.lookup question = none := by
      rw [List.lookup_eq_none_iff]
      intro row hrow
      rw [bne_iff_ne]
      rintro rfl
      have hsome := hrows row hrow
      rw [hfound] at hsome
      cases hsome
    rw [Table.answer, hlookup, Option.getD_none, hother]

/-- Assumes: a table of numbers with the right answer for every value that is counted, no row for
any other number, and the right answer for nothing. It answers every number by the value with it. -/
theorem Table.answer_eq_at [DecidableEq α] [Numbered α] {table : Table Int β}
    (answerOf : Option α → β)
    (hvalue : ∀ value ∈ (Numbered.order : List α),
      table.answer (Numbered.number (some value)) = answerOf (some value))
    (hrows : ∀ row ∈ table.rows, (Numbered.ofNumber? row.1 : Option α).isSome = true)
    (hother : table.other = answerOf none) (n : Int) :
    table.answer n = answerOf (Numbered.ofNumber? n) := by
  have hkey : ∀ {m : Int} {value : α},
      Numbered.ofNumber? m = some value → Numbered.number (some value) = m :=
    fun hfound ↦ (Numbered.ofNumber?_eq_some_iff.mp hfound).symm
  exact Table.answer_eq answerOf hkey (fun value ↦ hvalue value (Numbered.mem_order value)) hrows
    hother n

end Answers

section Numbered

variable {α : Type} [Numbered α]

/-- The numbers that belong to values are those from one to how many there are. -/
theorem isSome_ofNumber?_iff {n : Int} :
    (Numbered.ofNumber? n : Option α).isSome = true ↔
      1 ≤ n ∧ n ≤ (Numbered.order : List α).length := by
  unfold Numbered.ofNumber?
  by_cases hpositive : n ≤ 0
  · rw [if_pos hpositive]
    simp only [Option.isSome_none, Bool.false_eq_true, false_iff]
    omega
  · rw [if_neg hpositive, Option.isSome_iff_ne_none, ne_eq, List.getElem?_eq_none_iff]
    omega

variable [DecidableEq α]

/-- What a look-up by word tells a caller: a number, and whether there is one. -/
def answered (found : Option α) : Int × Bool :=
  (Numbered.number found, found.isSome)

theorem finds_iff_answered {found : Option α} {n : Int} :
    Finds found n ↔ answered found = (n, true) := by
  rw [Finds, answered, Prod.mk.injEq, and_comm]

end Numbered

/-! ### Modes and stages -/

namespace Written

/-- The mode that a keyword stands for. -/
def modeOfKeyword : Table Bytes (Int × Bool) where
  rows := [(utf8 "lex", 1, true), (utf8 "parse", 2, true), (utf8 "com", 3, true)]
  other := (0, false)

/-- The keywords that are shown. -/
def keywords : List Bytes :=
  [utf8 "com", utf8 "lex", utf8 "parse"]

/-- Whether a number is that of a mode. -/
def isMode (n : Int) : Bool :=
  1 ≤ n && n ≤ 5

/-- The stage at which a mode stops. -/
def stageOfMode : Table Int Int where
  rows := [(1, 1), (2, 2), (3, 3), (4, 3), (5, 3)]
  other := 0

/-- The target that a mode compiles for. -/
def targetOfMode : Table Int (Int × Bool) where
  rows := [(3, 1, true), (4, 2, true), (5, 3, true)]
  other := (0, false)

/-- The keyword of a stage. -/
def keywordOfStage : Table Int Bytes where
  rows := [(1, utf8 "lex"), (2, utf8 "parse"), (3, utf8 "com")]
  other := utf8 "unknown"

/-! ### Targets -/

/-- The target with a name. -/
def targetOfName : Table Bytes (Int × Bool) where
  rows := [(utf8 "wasm32", 1, true), (utf8 "pvm", 2, true), (utf8 "ir", 3, true)]
  other := (0, false)

/-- The names of targets that are shown. -/
def targetNames : List Bytes :=
  [utf8 "wasm32", utf8 "pvm", utf8 "ir"]

/-- The mode that compiles for a target. -/
def modeOfTarget : Table Int Int where
  rows := [(1, 3), (2, 4), (3, 5)]
  other := 0

/-- The name of a target. -/
def nameOfTarget : Table Int Bytes where
  rows := [(1, utf8 "wasm32"), (2, utf8 "pvm"), (3, utf8 "ir")]
  other := utf8 "unknown"

/-- The file name ending of a target. -/
def extensionOfTarget : Table Int Bytes where
  rows := [(1, utf8 ".wat"), (2, utf8 ".pvm"), (3, utf8 ".ir")]
  other := []

/-- How a mode is shown: as the compile stage with its target, or else as its stage. -/
def labelOfMode (n : Int) : Bytes :=
  match targetOfMode.answer n with
  | (target, true) => keywordOfStage.answer 3 ++ utf8 "/" ++ nameOfTarget.answer target
  | (_, false) =>
    if isMode n then keywordOfStage.answer (stageOfMode.answer n) else utf8 "unknown"

/-! ### Kinds of failure -/

/-- The name of a kind, in a table that shows the number that is asked for where it has no row. -/
def nameOfKind (n : Int) : Table Int Bytes where
  rows := [(1, utf8 "UsageError"), (2, utf8 "InvalidModeError"), (3, utf8 "UnknownFlagError"),
    (4, utf8 "MissingFlagValueError"), (5, utf8 "TargetNotSupportedError"),
    (6, utf8 "UnknownTargetError")]
  other := utf8 "Kind(" ++ Text.decimal n ++ utf8 ")"

/-! ### The look-ups are the written tables -/

theorem modeOfKeyword_eq (text : Bytes) :
    modeOfKeyword.answer text = answered (Mode.ofKeyword? text) :=
  Table.answer_eq (fun found ↦ answered (found.map Stage.baseMode))
    Stage.ofKeyword?_eq_some_iff.mp (fun stage ↦ by cases stage <;> rfl) (by decide) rfl text

theorem keywords_eq : keywords = Stage.all.map Stage.keyword :=
  rfl

theorem isMode_eq (n : Int) : isMode n = Mode.isNumber n := by
  have hlength : (Numbered.order : List Mode).length = 5 := rfl
  rw [Bool.eq_iff_iff, Mode.isNumber, isSome_ofNumber?_iff, hlength, isMode, Bool.and_eq_true,
    decide_eq_true_iff, decide_eq_true_iff]
  rfl

theorem stageOfMode_eq (n : Int) : stageOfMode.answer n = Numbered.number (Mode.stageAt? n) :=
  Table.answer_eq_at (fun found ↦ Numbered.number (found.map Mode.stage)) (by decide) (by decide)
    rfl n

theorem targetOfMode_eq (n : Int) : targetOfMode.answer n = answered (Mode.targetAt? n) :=
  Table.answer_eq_at (fun found ↦ answered (found.bind Mode.target?)) (by decide) (by decide) rfl n

theorem keywordOfStage_eq (n : Int) : keywordOfStage.answer n = Stage.keywordAt n :=
  Table.answer_eq_at (fun found ↦ (found.map Stage.keyword).getD unknownLabel) (by decide)
    (by decide) rfl n

theorem targetOfName_eq (text : Bytes) :
    targetOfName.answer text = answered (Target.ofName? text) :=
  Table.answer_eq answered Target.ofName?_eq_some_iff.mp (fun target ↦ by cases target <;> rfl)
    (by decide) rfl text

theorem targetNames_eq : targetNames = Target.all.map Target.name :=
  rfl

theorem modeOfTarget_eq (n : Int) : modeOfTarget.answer n = Numbered.number (Target.modeAt? n) :=
  Table.answer_eq_at (fun found ↦ Numbered.number (found.map Mode.compile)) (by decide) (by decide)
    rfl n

theorem nameOfTarget_eq (n : Int) : nameOfTarget.answer n = Target.nameAt n :=
  Table.answer_eq_at (fun found ↦ (found.map Target.name).getD unknownLabel) (by decide)
    (by decide) rfl n

theorem extensionOfTarget_eq (n : Int) : extensionOfTarget.answer n = Target.extensionAt n :=
  Table.answer_eq_at (fun found ↦ (found.map Target.extension).getD []) (by decide) (by decide)
    rfl n

/-- The label that is put together from the written tables is the label of the mode. -/
theorem labelOfMode_eq (n : Int) : labelOfMode n = Mode.labelAt n := by
  unfold labelOfMode
  rw [targetOfMode_eq, isMode_eq, stageOfMode_eq, Mode.targetAt?, Mode.stageAt?, Mode.isNumber,
    Mode.labelAt]
  cases (Numbered.ofNumber? n : Option Mode) with
  | none => rfl
  | some mode =>
    rcases mode with _ | _ | target
    · rfl
    · rfl
    · cases target <;> rfl

theorem nameOfKind_eq (n : Int) : (nameOfKind n).answer n = Kind.nameAt n := by
  have hanswer := Table.answer_eq_at
    (fun found : Option Kind ↦ (found.map Kind.name).getD (nameOfKind n).other)
    (fun kind _ ↦ by cases kind <;> rfl) (by simp only [nameOfKind]; decide) rfl n
  rw [hanswer, Kind.nameAt]
  cases (Numbered.ofNumber? n : Option Kind) <;> rfl

/-! ### The written tables agree -/

/-- The words that stand for a mode are the keywords that are shown. -/
theorem modeOfKeyword_known_iff {text : Bytes} :
    (modeOfKeyword.answer text).2 = true ↔ text ∈ keywords := by
  rw [modeOfKeyword_eq, keywords_eq]
  exact Mode.isSome_ofKeyword?_iff

/-- The words that name a target are those that are shown, each for the number that shows it. -/
theorem targetOfName_eq_iff {text : Bytes} {n : Int} :
    targetOfName.answer text = (n, true) ↔ text ∈ targetNames ∧ nameOfTarget.answer n = text := by
  rw [targetOfName_eq, targetNames_eq, nameOfTarget_eq, ← finds_iff_answered]
  exact Target.finds_ofName?_iff

/-- The target of a mode and the mode of a target undo each other. -/
theorem targetOfMode_eq_iff {m t : Int} :
    targetOfMode.answer m = (t, true) ↔ m ≠ 0 ∧ modeOfTarget.answer t = m := by
  rw [targetOfMode_eq, modeOfTarget_eq, ← finds_iff_answered]
  exact Mode.finds_targetAt?_iff

/-- The numbers of modes are those with a stage. -/
theorem isMode_iff_stageOfMode {n : Int} : isMode n = true ↔ stageOfMode.answer n ≠ 0 := by
  rw [isMode_eq, stageOfMode_eq]
  exact Mode.isNumber_iff_stageAt?

/-- The numbers of modes are those with a label of their own. -/
theorem isMode_iff_labelOfMode {n : Int} : isMode n = true ↔ labelOfMode n ≠ utf8 "unknown" := by
  rw [isMode_eq, labelOfMode_eq]
  exact Mode.isNumber_iff_labelAt_ne

end Written

end Invocation
