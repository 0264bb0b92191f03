import Invocation.Failure

/-!
# Resolving a command line

`resolve` turns an argument list into the configuration that it stands for, or names the first
malformed argument from the left. The list is `help` alone, or a keyword, an input path and any
number of settings of two arguments each (`readSettings`). A value is whatever follows its flag and
is never taken for a flag itself.

The order of the checks is part of the answer. A keyword is judged before the input path, a flag
before its value, and whether the stage takes a flag at all is judged by the keyword alone and
before anything is said about the value.

The settings that are read are those that were written: `readSettings_eq_ok_iff` says that the
reader accepts exactly the arguments that some list of settings makes, as long as the stage takes
their flags, and that it finds those settings.
-/

set_option autoImplicit false
set_option relaxedAutoImplicit false

namespace Invocation

/-- The flag that an argument spells, if the stage takes it. -/
def readFlag (stage : Stage) (token : Bytes) : Except Failure Flag :=
  match Flag.ofName? token with
  | none => .error (.unknownFlag token)
  | some flag => if flag.isAllowedIn stage then .ok flag else .error (.targetNotSupported stage)

/-- The setting that a flag makes with the argument after it. An output path may be any bytes. -/
def readValue (value : Bytes) : Flag → Except Failure Setting
  | .out => .ok (.output value)
  | .target =>
    match Target.ofName? value with
    | none => .error (.unknownTarget value)
    | some target => .ok (.target target)

/-- The settings that the arguments after the input path make, taken two at a time. -/
def readSettings (stage : Stage) : List Bytes → Except Failure (List Setting)
  | [] => .ok []
  | [token] =>
    match readFlag stage token with
    | .error failure => .error failure
    | .ok flag => .error (.missingValue flag)
  | token :: value :: rest =>
    match readFlag stage token with
    | .error failure => .error failure
    | .ok flag =>
      match readValue value flag with
      | .error failure => .error failure
      | .ok setting =>
        match readSettings stage rest with
        | .error failure => .error failure
        | .ok settings => .ok (setting :: settings)

/-! ### What is accepted -/

/-- A flag is read exactly where it is written and the stage takes it. -/
theorem readFlag_eq_ok_iff {stage : Stage} {token : Bytes} {flag : Flag} :
    readFlag stage token = .ok flag ↔ flag.name = token ∧ flag.isAllowedIn stage = true := by
  unfold readFlag
  cases hfound : Flag.ofName? token with
  | none =>
    constructor
    · intro hread
      cases hread
    · rintro ⟨hname, -⟩
      rw [Flag.ofName?_eq_some_iff.mpr hname] at hfound
      cases hfound
  | some found =>
    have hname := Flag.ofName?_eq_some_iff.mp hfound
    constructor
    · intro hread
      dsimp only at hread
      split at hread
      · next hallowed =>
        cases hread
        exact ⟨hname, hallowed⟩
      · cases hread
    · rintro ⟨hflag, hallowed⟩
      obtain rfl : found = flag := by
        rw [Flag.ofName?_eq_some_iff.mpr hflag] at hfound
        exact (Option.some.inj hfound).symm
      exact if_pos hallowed

/-- A value is read as the setting of its flag that is written with that value. -/
theorem readValue_eq_ok_iff {value : Bytes} {flag : Flag} {setting : Setting} :
    readValue value flag = .ok setting ↔ setting.flag = flag ∧ setting.value = value := by
  cases flag with
  | out =>
    cases setting with
    | output path =>
      constructor
      · intro hread
        cases hread
        exact ⟨rfl, rfl⟩
      · rintro ⟨-, rfl⟩
        rfl
    | target chosen => simp [readValue, Setting.flag]
  | target =>
    unfold readValue
    cases setting with
    | output path =>
      dsimp only
      split <;> simp [Setting.flag]
    | target chosen =>
      simp only [Setting.flag, Setting.value, true_and, ← Target.ofName?_eq_some_iff]
      split
      · next hfound => simp [hfound]
      · next found hfound => simp [hfound]

/-- The reader accepts exactly the arguments that settings with allowed flags make, and finds those
settings. -/
theorem readSettings_eq_ok_iff {stage : Stage} {arguments : List Bytes}
    {settings : List Setting} :
    readSettings stage arguments = .ok settings ↔
      arguments = settings.flatMap Setting.tokens ∧
        ∀ setting ∈ settings, setting.flag.isAllowedIn stage = true := by
  induction settings generalizing arguments with
  | nil =>
    fun_cases readSettings stage arguments <;> simp_all
  | cons setting settings ih =>
    constructor
    · intro hread
      unfold readSettings at hread
      split at hread
      · cases hread
      · split at hread <;> cases hread
      · next token value rest =>
        split at hread
        · cases hread
        · next flag hflag =>
          split at hread
          · cases hread
          · next first hfirst =>
            split at hread
            · cases hread
            · next others hothers =>
              cases hread
              obtain ⟨hname, hallowed⟩ := readFlag_eq_ok_iff.mp hflag
              obtain ⟨rfl, rfl⟩ := readValue_eq_ok_iff.mp hfirst
              obtain ⟨rfl, hrest⟩ := ih.mp hothers
              refine ⟨?_, ?_⟩
              · rw [List.flatMap_cons, Setting.tokens, hname]
                rfl
              · intro member hmember
                rcases List.mem_cons.mp hmember with rfl | hmember
                · exact hallowed
                · exact hrest member hmember
    · rintro ⟨rfl, hallowed⟩
      have hflag := readFlag_eq_ok_iff.mpr ⟨rfl, hallowed setting List.mem_cons_self⟩
      have hvalue : readValue setting.value setting.flag = .ok setting :=
        readValue_eq_ok_iff.mpr ⟨rfl, rfl⟩
      have hothers := ih.mpr ⟨rfl, fun member hmember ↦
        hallowed member (List.mem_cons_of_mem setting hmember)⟩
      rw [List.flatMap_cons, Setting.tokens]
      simp only [List.cons_append, List.nil_append, readSettings, hflag, hvalue, hothers]

/-! ### The whole list -/

/-- The configuration of a keyword, an input path and the arguments after them. -/
def configure (keyword input : Bytes) (arguments : List Bytes) : Except Failure Config :=
  match Stage.ofKeyword? keyword with
  | none => .error (.invalidMode keyword)
  | some stage =>
    if input = [] then .error .emptyInput
    else
      match readSettings stage arguments with
      | .error failure => .error failure
      | .ok settings => .ok ((Config.initial stage input).applyAll settings)

/-- The argument that asks for the usage text when it stands alone. -/
def helpWord : Bytes :=
  utf8 "help"

/-- The configuration that an argument list stands for. -/
def resolve : List Bytes → Except Refusal Config
  | [] => .error (.malformed .tooFewArguments)
  | [argument] =>
    if argument = helpWord then .error .help else .error (.malformed .tooFewArguments)
  | keyword :: input :: arguments =>
    match configure keyword input arguments with
    | .error failure => .error (.malformed failure)
    | .ok config => .ok config

end Invocation
