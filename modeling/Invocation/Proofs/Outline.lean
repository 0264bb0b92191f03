import Invocation.Resolve

/-!
# The outline of an argument list

Before any setting is read, an argument list has one of four outlines: it is too short, its first
argument is no keyword, its input path is empty, or it is a keyword and an input path with more
arguments behind them (`outline`). What `resolve` answers is settled by the outline in the first
three cases and left to `readSettings` in the fourth (`resolve_complete_ok`,
`resolve_complete_error`), so only a list of the fourth outline can be accepted
(`resolve_eq_ok_iff`).

`readSettings_append` is the law of the reader at a seam: arguments that were read as settings stay
read whatever is put behind them, and what is put behind them is read as if it stood alone.
-/

set_option autoImplicit false
set_option relaxedAutoImplicit false

namespace Invocation

/-! ### Reading across a seam -/

/-- Assumes: the arguments in front are read as settings. The reader goes on behind them with
nothing but those settings in hand. -/
theorem readSettings_append {stage : Stage} {front : List Bytes} {settings : List Setting}
    (hfront : readSettings stage front = .ok settings) (rest : List Bytes) :
    readSettings stage (front ++ rest) = (readSettings stage rest).map (settings ++ ·) := by
  obtain ⟨rfl, hallowed⟩ := readSettings_eq_ok_iff.mp hfront
  clear hfront
  induction settings with
  | nil =>
    change readSettings stage rest = _
    cases readSettings stage rest <;> rfl
  | cons setting settings ih =>
    have hflag : readFlag stage setting.flag.name = .ok setting.flag :=
      readFlag_eq_ok_iff.mpr ⟨rfl, hallowed setting List.mem_cons_self⟩
    have hvalue : readValue setting.value setting.flag = .ok setting :=
      readValue_eq_ok_iff.mpr ⟨rfl, rfl⟩
    have hrest := ih fun member hmember ↦ hallowed member (List.mem_cons_of_mem setting hmember)
    rw [List.flatMap_cons, Setting.tokens]
    simp only [List.cons_append, List.nil_append, readSettings, hflag, hvalue, hrest]
    cases readSettings stage rest <;> rfl

/-- Assumes: the arguments in front are read as settings. A failure behind them is the failure of
the whole. -/
theorem readSettings_append_error {stage : Stage} {front rest : List Bytes}
    {settings : List Setting} {failure : Failure}
    (hfront : readSettings stage front = .ok settings)
    (hrest : readSettings stage rest = .error failure) :
    readSettings stage (front ++ rest) = .error failure := by
  rw [readSettings_append hfront, hrest]
  rfl

/-! ### The four outlines -/

/-- What an argument list looks like before any setting is read. -/
inductive Outline : List Bytes → Prop
  | short {args : List Bytes} (hlength : args.length < 2) : Outline args
  | noKeyword {keyword : Bytes} (hkeyword : Stage.ofKeyword? keyword = none) (input : Bytes)
      (arguments : List Bytes) : Outline (keyword :: input :: arguments)
  | noInput (stage : Stage) (arguments : List Bytes) : Outline (stage.keyword :: [] :: arguments)
  | complete (stage : Stage) {input : Bytes} (hinput : input ≠ []) (arguments : List Bytes) :
      Outline (stage.keyword :: input :: arguments)

/-- Every argument list has an outline. -/
theorem outline (args : List Bytes) : Outline args := by
  rcases args with _ | ⟨keyword, _ | ⟨input, arguments⟩⟩
  · exact .short (by decide)
  · exact .short (Nat.lt_succ_self 1)
  · cases hfound : Stage.ofKeyword? keyword with
    | none => exact .noKeyword hfound input arguments
    | some stage =>
      obtain rfl := Stage.ofKeyword?_eq_some_iff.mp hfound
      by_cases hinput : input = []
      · rw [hinput]
        exact .noInput stage arguments
      · exact .complete stage hinput arguments

@[simp] theorem Stage.ofKeyword?_keyword (stage : Stage) :
    Stage.ofKeyword? stage.keyword = some stage :=
  Stage.ofKeyword?_eq_some_iff.mpr rfl

/-- A list that is too short asks for help or lacks an argument. -/
theorem resolve_short {args : List Bytes} (hlength : args.length < 2) :
    resolve args =
      .error (if args = [utf8 "help"] then .help else .malformed .tooFewArguments) := by
  rcases args with _ | ⟨argument, _ | ⟨input, arguments⟩⟩
  · rfl
  · by_cases hhelp : argument = utf8 "help"
    · simp [resolve, helpWord, hhelp]
    · simp [resolve, helpWord, hhelp]
  · simp only [List.length_cons] at hlength
    omega

theorem resolve_noKeyword {keyword : Bytes} (hkeyword : Stage.ofKeyword? keyword = none)
    (input : Bytes) (arguments : List Bytes) :
    resolve (keyword :: input :: arguments) = .error (.malformed (.invalidMode keyword)) := by
  simp only [resolve, configure, hkeyword]

theorem resolve_noInput (stage : Stage) (arguments : List Bytes) :
    resolve (stage.keyword :: [] :: arguments) = .error (.malformed .emptyInput) := by
  simp only [resolve, configure, Stage.ofKeyword?_keyword, if_true]

/-- Behind a keyword and an input path, the settings decide: accepted settings are applied to the
initial configuration. -/
theorem resolve_complete_ok {stage : Stage} {input : Bytes} {arguments : List Bytes}
    {settings : List Setting} (hinput : input ≠ [])
    (hread : readSettings stage arguments = .ok settings) :
    resolve (stage.keyword :: input :: arguments) =
      .ok ((Config.initial stage input).applyAll settings) := by
  simp only [resolve, configure, Stage.ofKeyword?_keyword, if_neg hinput, hread]

/-- Behind a keyword and an input path, a failure of the settings is the failure of the list. -/
theorem resolve_complete_error {stage : Stage} {input : Bytes} {arguments : List Bytes}
    {failure : Failure} (hinput : input ≠ [])
    (hread : readSettings stage arguments = .error failure) :
    resolve (stage.keyword :: input :: arguments) = .error (.malformed failure) := by
  simp only [resolve, configure, Stage.ofKeyword?_keyword, if_neg hinput, hread]

/-! ### What is accepted and what is refused -/

/-- A list is accepted exactly when it is a keyword, an input path and arguments that are read as
settings, and it stands for the initial configuration with those settings applied. -/
theorem resolve_eq_ok_iff {args : List Bytes} {config : Config} :
    resolve args = .ok config ↔
      ∃ stage input arguments settings, args = Stage.keyword stage :: input :: arguments ∧
        input ≠ [] ∧ readSettings stage arguments = .ok settings ∧
          config = (Config.initial stage input).applyAll settings := by
  constructor
  · intro haccepted
    cases outline args with
    | short hlength =>
      rw [resolve_short hlength] at haccepted
      cases haccepted
    | noKeyword hkeyword input arguments =>
      rw [resolve_noKeyword hkeyword] at haccepted
      cases haccepted
    | noInput stage arguments =>
      rw [resolve_noInput] at haccepted
      cases haccepted
    | complete stage hinput arguments =>
      cases hread : readSettings stage arguments with
      | error failure =>
        rw [resolve_complete_error hinput hread] at haccepted
        cases haccepted
      | ok settings =>
        rw [resolve_complete_ok hinput hread] at haccepted
        cases haccepted
        exact ⟨stage, _, arguments, settings, rfl, hinput, hread, rfl⟩
  · rintro ⟨stage, input, arguments, settings, rfl, hinput, hread, rfl⟩
    exact resolve_complete_ok hinput hread

end Invocation
