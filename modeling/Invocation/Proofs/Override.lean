import Invocation.Proofs.Grammar

/-!
# Later settings override earlier ones

Settings that follow an accepted command line change the configuration only in the fields that they
set, and there they leave nothing of what was set before. Each flag sets one field
(`Config.field`). A setting decides about the field of its flag and leaves the other one alone; by
induction a list of settings decides about the field of each flag that stands in it
(`Config.field_applyAll_of_mem`) and leaves the others alone
(`Config.field_applyAll_of_forall_ne`).

Nothing of the earlier settings reaches the decision whether the later ones are accepted
(`resolve_append_cases`). `resolve_append_override` puts the two together.
-/

set_option autoImplicit false
set_option relaxedAutoImplicit false

namespace Invocation

open Grammar

/-! ### The field of a flag -/

/-- What a flag sets: a path or a mode. -/
def Flag.Field : Flag → Type
  | out => Bytes
  | target => Mode

namespace Config

/-- The field of a configuration that a flag sets. -/
def field (config : Config) : (flag : Flag) → flag.Field
  | .out => config.output
  | .target => config.mode

/-- A setting decides about the field of its flag, whatever the configuration was. -/
theorem field_apply_flag (first second : Config) (setting : Setting) :
    (first.apply setting).field setting.flag = (second.apply setting).field setting.flag := by
  cases setting <;> rfl

/-- A setting leaves the field of every other flag alone. -/
theorem field_apply_of_ne {flag : Flag} {setting : Setting} (hflag : setting.flag ≠ flag)
    (config : Config) : (config.apply setting).field flag = config.field flag := by
  cases setting with
  | output path =>
    cases flag with
    | out => exact absurd rfl hflag
    | target => rfl
  | target chosen =>
    cases flag with
    | out => rfl
    | target => exact absurd rfl hflag

/-- Configurations with the same field still have the same after one more setting. -/
theorem field_apply_congr {flag : Flag} {first second : Config}
    (hfield : first.field flag = second.field flag) (setting : Setting) :
    (first.apply setting).field flag = (second.apply setting).field flag := by
  by_cases hflag : setting.flag = flag
  · subst hflag
    exact field_apply_flag first second setting
  · rw [field_apply_of_ne hflag, field_apply_of_ne hflag, hfield]

/-- Configurations with the same field still have the same after any more settings. -/
theorem field_applyAll_congr {flag : Flag} {first second : Config}
    (hfield : first.field flag = second.field flag) (settings : List Setting) :
    (first.applyAll settings).field flag = (second.applyAll settings).field flag := by
  induction settings generalizing first second with
  | nil => exact hfield
  | cons setting settings ih => exact ih (field_apply_congr hfield setting)

/-- Assumes: a list with a setting of a flag in it. It decides about the field of that flag, whatever
the configuration was. -/
theorem field_applyAll_of_mem {setting : Setting} {settings : List Setting}
    (hmem : setting ∈ settings) (first second : Config) :
    (first.applyAll settings).field setting.flag =
      (second.applyAll settings).field setting.flag := by
  induction settings generalizing first second with
  | nil => exact absurd hmem List.not_mem_nil
  | cons head settings ih =>
    rcases List.mem_cons.mp hmem with rfl | hmem
    · exact field_applyAll_congr (field_apply_flag first second setting) settings
    · exact ih hmem (first.apply head) (second.apply head)

/-- Assumes: a list without a setting of a flag. It leaves the field of that flag alone. -/
theorem field_applyAll_of_forall_ne {flag : Flag} {settings : List Setting}
    (hflag : ∀ setting ∈ settings, setting.flag ≠ flag) (config : Config) :
    (config.applyAll settings).field flag = config.field flag := by
  induction settings generalizing config with
  | nil => rfl
  | cons setting settings ih =>
    obtain ⟨hhead, htail⟩ := List.forall_mem_cons.mp hflag
    rw [applyAll_cons, ih htail, field_apply_of_ne hhead]

end Config

/-! ### Flags by their position -/

/-- Whether an argument stands at a position where a flag is read, which is every other one. -/
def StandsAsFlag (token : Bytes) (arguments : List Bytes) : Prop :=
  ∃ index, index % 2 = 0 ∧ arguments[index]? = some token

theorem not_standsAsFlag_nil (token : Bytes) : ¬ StandsAsFlag token [] := by
  rintro ⟨index, -, hfound⟩
  cases hfound

theorem standsAsFlag_cons_cons {token flag value : Bytes} {rest : List Bytes} :
    StandsAsFlag token (flag :: value :: rest) ↔ flag = token ∨ StandsAsFlag token rest := by
  constructor
  · rintro ⟨index, heven, hfound⟩
    rcases index with _ | _ | index
    · exact Or.inl (Option.some.inj hfound)
    · cases heven
    · exact Or.inr ⟨index, by omega, hfound⟩
  · rintro (rfl | ⟨index, heven, hfound⟩)
    · exact ⟨0, rfl, rfl⟩
    · exact ⟨index + 2, by omega, hfound⟩

/-- The flags that stand at flag positions of written settings are those of the settings; a value
that is spelled like a flag does not count. -/
theorem standsAsFlag_flatMap_tokens_iff {flag : Flag} {settings : List Setting} :
    StandsAsFlag flag.name (settings.flatMap Setting.tokens) ↔
      ∃ setting ∈ settings, setting.flag = flag := by
  induction settings with
  | nil =>
    constructor
    · exact fun hstands ↦ absurd hstands (not_standsAsFlag_nil _)
    · rintro ⟨setting, hmem, -⟩
      exact absurd hmem List.not_mem_nil
  | cons setting settings ih =>
    have hname : setting.flag.name = flag.name ↔ setting.flag = flag :=
      ⟨flagName_injective, congrArg Flag.name⟩
    rw [List.flatMap_cons, Setting.tokens, List.cons_append, List.cons_append, List.nil_append,
      standsAsFlag_cons_cons, ih, hname]
    simp only [List.mem_cons, exists_eq_or_imp]

/-- What settings do to a configuration, told by the positions of their flags: where a flag stands
among them they decide about its field, and where it does not they leave it alone. -/
theorem Config.field_applyAll_of_standsAsFlag (flag : Flag) (settings : List Setting)
    (first second : Config) :
    (StandsAsFlag flag.name (settings.flatMap Setting.tokens) →
      (first.applyAll settings).field flag = (second.applyAll settings).field flag) ∧
    (¬ StandsAsFlag flag.name (settings.flatMap Setting.tokens) →
      (first.applyAll settings).field flag = first.field flag) := by
  rw [standsAsFlag_flatMap_tokens_iff]
  constructor
  · rintro ⟨setting, hmem, rfl⟩
    exact field_applyAll_of_mem hmem first second
  · intro hnone
    exact field_applyAll_of_forall_ne (fun setting hmem hflag ↦ hnone ⟨setting, hmem, hflag⟩) first

/-! ### Command lines with more settings behind them -/

/-- Assumes: an accepted command line. More arguments behind it are refused for the same failure as
behind its keyword and input path alone, or they are settings, and those are applied to its
configuration instead of the initial one. -/
theorem resolve_append_cases {keyword input : Bytes} {first : List Bytes} {config : Config}
    (hfirst : resolve (keyword :: input :: first) = .ok config) (second : List Bytes) :
    (∃ failure, resolve (keyword :: input :: first ++ second) = .error (.malformed failure) ∧
      resolve (keyword :: input :: second) = .error (.malformed failure)) ∨
    ∃ (base : Config) (settings : List Setting), base.input = config.input ∧
      second = settings.flatMap Setting.tokens ∧
      resolve (keyword :: input :: first ++ second) = .ok (config.applyAll settings) ∧
      resolve (keyword :: input :: second) = .ok (base.applyAll settings) := by
  obtain ⟨stage, path, arguments, earlier, heq, hinput, hread, rfl⟩ := resolve_eq_ok_iff.mp hfirst
  cases heq
  cases hsecond : readSettings stage second with
  | error failure =>
    exact Or.inl ⟨failure,
      resolve_complete_error hinput (readSettings_append_error hread hsecond),
      resolve_complete_error hinput hsecond⟩
  | ok settings =>
    have hboth : readSettings stage (first ++ second) = .ok (earlier ++ settings) := by
      rw [readSettings_append hread, hsecond]
      rfl
    refine Or.inr ⟨.initial stage input, settings, (input_applyAll _ earlier).symm,
      (readSettings_eq_ok_iff.mp hsecond).1, ?_, resolve_complete_ok hinput hsecond⟩
    rw [← Config.applyAll_append]
    exact resolve_complete_ok hinput hboth

/-- Assumes: an accepted command line. More arguments behind it are refused exactly as behind its
keyword and input path alone. Where they are accepted, they decide about the output path if the flag
for it stands among them and about the mode if the flag for the target does; otherwise both stay
what they were, and the input path does in any case. -/
theorem resolve_append_override {keyword input : Bytes} {first : List Bytes} {config : Config}
    (hfirst : resolve (keyword :: input :: first) = .ok config) (second : List Bytes) :
    (∀ refusal, resolve (keyword :: input :: first ++ second) = .error refusal ↔
      resolve (keyword :: input :: second) = .error refusal) ∧
    ∀ whole alone, resolve (keyword :: input :: first ++ second) = .ok whole →
      resolve (keyword :: input :: second) = .ok alone →
        whole.input = config.input ∧ whole.input = alone.input ∧
        (StandsAsFlag (utf8 "--out") second → whole.output = alone.output) ∧
        (¬ StandsAsFlag (utf8 "--out") second → whole.output = config.output) ∧
        (StandsAsFlag (utf8 "--target") second → whole.mode = alone.mode) ∧
        (¬ StandsAsFlag (utf8 "--target") second → whole.mode = config.mode) := by
  rcases resolve_append_cases hfirst second with
    ⟨failure, hwhole, halone⟩ | ⟨base, settings, hinput, rfl, hwhole, halone⟩
  · rw [hwhole, halone]
    exact ⟨fun refusal ↦ Iff.rfl, fun whole alone h ↦ nomatch h⟩
  · rw [hwhole, halone]
    refine ⟨fun refusal ↦ ⟨fun h ↦ (nomatch h), fun h ↦ (nomatch h)⟩, ?_⟩
    rintro _ _ ⟨⟩ ⟨⟩
    obtain ⟨hout, hkeptOut⟩ := Config.field_applyAll_of_standsAsFlag .out settings config base
    obtain ⟨htarget, hkeptTarget⟩ := Config.field_applyAll_of_standsAsFlag .target settings config base
    refine ⟨input_applyAll config settings, ?_, hout, hkeptOut, htarget, hkeptTarget⟩
    rw [input_applyAll, input_applyAll, hinput]

/-- A target that was named stays when only an output path follows, even one that is spelled like the
flag for a target. -/
theorem resolve_append_override_path :
    let config : Config := ⟨.compile .pvm, utf8 "a", utf8 "output.out"⟩
    let whole : Config := ⟨.compile .pvm, utf8 "a", utf8 "--target"⟩
    let alone : Config := ⟨.compile .wasm32, utf8 "a", utf8 "--target"⟩
    resolve [utf8 "com", utf8 "a", utf8 "--target", utf8 "pvm"] = .ok config ∧
      resolve [utf8 "com", utf8 "a", utf8 "--target", utf8 "pvm", utf8 "--out", utf8 "--target"] =
        .ok whole ∧
      resolve [utf8 "com", utf8 "a", utf8 "--out", utf8 "--target"] = .ok alone ∧
      whole.output = alone.output ∧ whole.mode = config.mode := by
  intro config whole alone
  have hfirst : resolve [utf8 "com", utf8 "a", utf8 "--target", utf8 "pvm"] = .ok config := rfl
  have hout : StandsAsFlag (utf8 "--out") [utf8 "--out", utf8 "--target"] := ⟨0, rfl, rfl⟩
  have htarget : ¬ StandsAsFlag (utf8 "--target") [utf8 "--out", utf8 "--target"] := by
    rw [standsAsFlag_cons_cons]
    rintro (heq | hnil)
    · exact target_ne_out heq.symm
    · exact not_standsAsFlag_nil _ hnil
  obtain ⟨-, -, hpath, -, -, hmode⟩ :=
    (resolve_append_override hfirst [utf8 "--out", utf8 "--target"]).2 whole alone rfl rfl
  exact ⟨hfirst, rfl, rfl, hpath hout, hmode htarget⟩

end Invocation
