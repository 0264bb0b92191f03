import Invocation.Proofs.Override
import Invocation.Proofs.Refusal

/-!
# Paths are opaque

An input path and an output path are carried into the configuration and never looked at, except that
an input path must not be empty. So two argument lists that differ in one path only get answers that
are alike (`Alike`): both are refused for the same cause, or both are accepted with configurations
that differ in the field of that path only, and not even there if the path is overridden.

The reason is that what is read behind a path does not depend on it (`resolve_path_cases`,
`resolve_input_cases`). `resolve_paths_opaque` compares the two answers.
-/

set_option autoImplicit false
set_option relaxedAutoImplicit false

namespace Invocation

open Grammar

/-- Two answers are alike in a sense given for configurations: both are the same refusal, or both
are configurations that are related. -/
inductive Alike (related : Config → Config → Prop) :
    Except Refusal Config → Except Refusal Config → Prop
  | refused (refusal : Refusal) : Alike related (.error refusal) (.error refusal)
  | accepted {first second : Config} (hrelated : related first second) :
      Alike related (.ok first) (.ok second)

/-! ### Output paths -/

/-- Any argument behind the flag for the output path is read as an output path. -/
theorem readSettings_path (stage : Stage) (path : Bytes) :
    readSettings stage [utf8 "--out", path] = .ok [.output path] :=
  readSettings_eq_ok_iff.mpr ⟨rfl, List.forall_mem_singleton.mpr rfl⟩

/-- Assumes: an accepted list. What stands behind it and one more output path is refused for a cause
that does not depend on the path, or is read as settings that do not depend on it. -/
theorem resolve_path_cases {args : List Bytes} {config : Config}
    (haccepted : resolve args = .ok config) (rest : List Bytes) :
    (∃ failure, ∀ path, resolve (args ++ [utf8 "--out", path] ++ rest) =
      .error (.malformed failure)) ∨
    ∃ settings : List Setting, rest = settings.flatMap Setting.tokens ∧
      ∀ path, resolve (args ++ [utf8 "--out", path] ++ rest) =
        .ok ((config.apply (.output path)).applyAll settings) := by
  obtain ⟨stage, input, front, earlier, rfl, hinput, hfront, rfl⟩ :=
    resolve_eq_ok_iff.mp haccepted
  have hpath (path : Bytes) : readSettings stage (front ++ [utf8 "--out", path]) =
      .ok (earlier ++ [.output path]) := by
    rw [readSettings_append hfront, readSettings_path]
    rfl
  cases hrest : readSettings stage rest with
  | error failure =>
    exact Or.inl ⟨failure, fun path ↦
      resolve_complete_error hinput (readSettings_append_error (hpath path) hrest)⟩
  | ok settings =>
    refine Or.inr ⟨settings, (readSettings_eq_ok_iff.mp hrest).1, fun path ↦ ?_⟩
    have hwhole : readSettings stage (front ++ [utf8 "--out", path] ++ rest) =
        .ok (earlier ++ [.output path] ++ settings) := by
      rw [readSettings_append (hpath path), hrest]
      rfl
    refine (resolve_complete_ok hinput hwhole).trans ?_
    rw [Config.applyAll_append, Config.applyAll_append]
    rfl

/-- Settings behind an output path: the path reaches the output field only, and only if no other one
follows. -/
theorem Config.applyAll_path (config : Config) (settings : List Setting) (first second : Bytes) :
    let left := (config.apply (.output first)).applyAll settings
    let right := (config.apply (.output second)).applyAll settings
    left.mode = right.mode ∧ left.input = right.input ∧
      (StandsAsFlag (utf8 "--out") (settings.flatMap Setting.tokens) →
        left.output = right.output) ∧
      (¬ StandsAsFlag (utf8 "--out") (settings.flatMap Setting.tokens) →
        left.output = first ∧ right.output = second) := by
  intro left right
  have hbefore : (config.apply (.output first)).field .target =
      (config.apply (.output second)).field .target := rfl
  have hinput : left.input = right.input := by
    rw [input_applyAll, input_applyAll]
    rfl
  obtain ⟨hover, hleft⟩ := field_applyAll_of_standsAsFlag .out settings
    (config.apply (.output first)) (config.apply (.output second))
  have hright := (field_applyAll_of_standsAsFlag .out settings
    (config.apply (.output second)) (config.apply (.output first))).2
  exact ⟨field_applyAll_congr hbefore settings, hinput, hover,
    fun hstands ↦ ⟨hleft hstands, hright hstands⟩⟩

/-! ### Input paths -/

/-- Behind a first argument and an input path that is not empty, the rest is refused for a cause
that does not depend on the path, or is read as settings that do not depend on it. -/
theorem resolve_input_cases (keyword : Bytes) (rest : List Bytes) :
    (∃ failure, ∀ input, input ≠ [] →
      resolve (keyword :: input :: rest) = .error (.malformed failure)) ∨
    ∃ (stage : Stage) (settings : List Setting), ∀ input, input ≠ [] →
      resolve (keyword :: input :: rest) =
        .ok ((Config.initial stage input).applyAll settings) := by
  cases hfound : Stage.ofKeyword? keyword with
  | none => exact Or.inl ⟨_, fun input _ ↦ resolve_noKeyword hfound input rest⟩
  | some stage =>
    obtain rfl := Stage.ofKeyword?_eq_some_iff.mp hfound
    cases hrest : readSettings stage rest with
    | error failure =>
      exact Or.inl ⟨failure, fun input hinput ↦ resolve_complete_error hinput hrest⟩
    | ok settings =>
      exact Or.inr ⟨stage, settings, fun input hinput ↦ resolve_complete_ok hinput hrest⟩

/-- Settings leave the input path alone, and it does not reach any other field. -/
theorem Config.applyAll_initial (stage : Stage) (settings : List Setting) (first second : Bytes) :
    let left := (Config.initial stage first).applyAll settings
    let right := (Config.initial stage second).applyAll settings
    left.input = first ∧ right.input = second ∧ left.mode = right.mode ∧
      left.output = right.output := by
  intro left right
  have hfield (flag : Flag) : left.field flag = right.field flag := by
    refine field_applyAll_congr ?_ settings
    cases flag <;> rfl
  exact ⟨input_applyAll _ settings, input_applyAll _ settings, hfield .target, hfield .out⟩

/-! ### Two answers -/

/-- Two argument lists that differ only in the value of an output path behind accepted arguments are
refused for the same cause, or accepted with the same mode and input path, and each with its own
output path unless that is overridden. Two argument lists that differ only in the input path are
refused for the same cause, or accepted with the same mode and output path, and each with its own
input path. -/
theorem resolve_paths_opaque :
    (∀ args, Accepted args → ∀ (first second : Bytes) (rest : List Bytes),
      Alike
        (fun left right ↦ left.mode = right.mode ∧ left.input = right.input ∧
          (StandsAsFlag (utf8 "--out") rest → left.output = right.output) ∧
          (¬ StandsAsFlag (utf8 "--out") rest → left.output = first ∧ right.output = second))
        (resolve (args ++ [utf8 "--out", first] ++ rest))
        (resolve (args ++ [utf8 "--out", second] ++ rest))) ∧
    ∀ keyword first second : Bytes, first ≠ [] → second ≠ [] → ∀ rest : List Bytes,
      Alike
        (fun left right ↦ left.input = first ∧ right.input = second ∧ left.mode = right.mode ∧
          left.output = right.output)
        (resolve (keyword :: first :: rest)) (resolve (keyword :: second :: rest)) := by
  constructor
  · rintro args ⟨config, haccepted⟩ first second rest
    rcases resolve_path_cases haccepted rest with ⟨failure, hrefused⟩ | ⟨settings, rfl, hresolve⟩
    · rw [hrefused first, hrefused second]
      exact .refused _
    · rw [hresolve first, hresolve second]
      exact .accepted (config.applyAll_path settings first second)
  · intro keyword first second hfirst hsecond rest
    rcases resolve_input_cases keyword rest with ⟨failure, hrefused⟩ | ⟨stage, settings, hresolve⟩
    · rw [hrefused first hfirst, hrefused second hsecond]
      exact .refused _
    · rw [hresolve first hfirst, hresolve second hsecond]
      exact .accepted (Config.applyAll_initial stage settings first second)

/-- An output path that is spelled like a flag and an empty one, and an input path that is spelled
like the word for help and one that is spelled like a flag. -/
theorem resolve_paths_opaque_flags :
    let target := [utf8 "--target", utf8 "pvm"]
    let left : Config := ⟨.compile .pvm, utf8 "a", utf8 "--target"⟩
    let right : Config := ⟨.compile .pvm, utf8 "a", []⟩
    let help : Config := ⟨.lex, utf8 "help", utf8 "output.out"⟩
    let flag : Config := ⟨.lex, utf8 "--out", utf8 "output.out"⟩
    Accepted [utf8 "com", utf8 "a"] ∧ ¬ StandsAsFlag (utf8 "--out") target ∧
      resolve ([utf8 "com", utf8 "a"] ++ [utf8 "--out", utf8 "--target"] ++ target) = .ok left ∧
      resolve ([utf8 "com", utf8 "a"] ++ [utf8 "--out", []] ++ target) = .ok right ∧
      left.mode = right.mode ∧ left.output = utf8 "--target" ∧ right.output = [] ∧
      resolve [utf8 "lex", utf8 "help"] = .ok help ∧ resolve [utf8 "lex", utf8 "--out"] = .ok flag ∧
      help.mode = flag.mode ∧ help.output = flag.output := by
  intro target left right help flag
  have haccepted : Accepted [utf8 "com", utf8 "a"] := ⟨_, rfl⟩
  have hstands : ¬ StandsAsFlag (utf8 "--out") target := by
    rw [standsAsFlag_cons_cons]
    rintro (heq | hnil)
    · exact target_ne_out heq
    · exact not_standsAsFlag_nil _ hnil
  have hleft : resolve ([utf8 "com", utf8 "a"] ++ [utf8 "--out", utf8 "--target"] ++ target) =
      .ok left := rfl
  have hright : resolve ([utf8 "com", utf8 "a"] ++ [utf8 "--out", []] ++ target) = .ok right := rfl
  have hhelp : resolve [utf8 "lex", utf8 "help"] = .ok help := rfl
  have hflag : resolve [utf8 "lex", utf8 "--out"] = .ok flag := rfl
  have hpaths := resolve_paths_opaque.1 _ haccepted (utf8 "--target") [] target
  have hinputs := resolve_paths_opaque.2 (utf8 "lex") (utf8 "help") (utf8 "--out") (by decide)
    (by decide) []
  rw [hleft, hright] at hpaths
  rw [hhelp, hflag] at hinputs
  cases hpaths with
  | accepted hpaths =>
    cases hinputs with
    | accepted hinputs =>
      obtain ⟨hmode, -, -, houtput⟩ := hpaths
      exact ⟨haccepted, hstands, hleft, hright, hmode, (houtput hstands).1, (houtput hstands).2,
        hhelp, hflag, hinputs.2.2⟩

end Invocation
