import Invocation.Proofs.Outline

/-!
# The grammar of command lines

A command line is a keyword, an input path and any number of groups of two arguments, a flag and
its value. `CommandLine` holds those that are well formed, with every word of the language spelled
out in `keywords`, `targets` and `Group.IsAllowed`, and `CommandLine.Means` says which
configurations they stand for: of several groups with the same flag the last one decides.

Nothing here refers to how arguments are read. `resolve_eq_ok_iff_commandLine` says that the
resolver accepts exactly the command lines of this grammar and answers with what they mean.
-/

set_option autoImplicit false
set_option relaxedAutoImplicit false

namespace Invocation.Grammar

/-! ### Words and groups -/

/-- The keywords, each with the mode that it stands for when no target is named. -/
def keywords : List (Bytes × Mode) :=
  [(utf8 "lex", .lex), (utf8 "parse", .parse), (utf8 "com", .compile .wasm32)]

/-- The names of the targets, each with the mode that compiles for it. -/
def targets : List (Bytes × Mode) :=
  [(utf8 "wasm32", .compile .wasm32), (utf8 "pvm", .compile .pvm), (utf8 "ir", .compile .ir)]

/-- Two arguments that stand behind the input path, whatever they are. -/
structure Group where
  flag : Bytes
  value : Bytes
  deriving DecidableEq, Repr

/-- The arguments of a group. -/
def Group.tokens (group : Group) : List Bytes :=
  [group.flag, group.value]

/-- Whether a group may stand behind a keyword: any output path may be given, and a target only
where the keyword compiles and only by one of its names. -/
def Group.IsAllowed (keyword : Bytes) (group : Group) : Prop :=
  group.flag = utf8 "--out" ∨
    keyword = utf8 "com" ∧ group.flag = utf8 "--target" ∧ group.value ∈ targets.map Prod.fst

/-- The value of the last group with a flag. -/
def lastValue? (flag : Bytes) (groups : List Group) : Option Bytes :=
  ((groups.filter (·.flag = flag)).getLast?).map Group.value

/-- A well-formed command line. -/
structure CommandLine where
  keyword : Bytes
  input : Bytes
  groups : List Group
  keyword_mem : keyword ∈ keywords.map Prod.fst
  input_ne_nil : input ≠ []
  groups_allowed : ∀ group ∈ groups, group.IsAllowed keyword

namespace CommandLine

/-- The arguments of a command line. -/
def arguments (line : CommandLine) : List Bytes :=
  line.keyword :: line.input :: line.groups.flatMap Group.tokens

/-- The configuration that a command line stands for. -/
structure Means (line : CommandLine) (config : Config) : Prop where
  input : config.input = line.input
  output : config.output = (lastValue? (utf8 "--out") line.groups).getD (utf8 "output.out")
  /-- The last target that is named decides the mode. -/
  mode_of_target : ∀ name, lastValue? (utf8 "--target") line.groups = some name →
    (name, config.mode) ∈ targets
  /-- Where no target is named, the keyword decides it. -/
  mode_of_keyword : lastValue? (utf8 "--target") line.groups = none →
    (line.keyword, config.mode) ∈ keywords

end CommandLine

/-! ### Words of the grammar and values of the resolver -/

/-- Assumes: a look-up that finds a value by its name and by nothing else. No two values have the
same name. -/
theorem eq_of_name_eq {α : Type} {name : α → Bytes} {find : Bytes → Option α}
    (hfind : ∀ {word : Bytes} {value : α}, find word = some value ↔ name value = word)
    {first second : α} (heq : name first = name second) : first = second := by
  have hfirst : find (name second) = some first := hfind.mpr heq
  rw [hfind.mpr rfl] at hfirst
  exact (Option.some.inj hfirst).symm

theorem keyword_injective {first second : Stage} (heq : first.keyword = second.keyword) :
    first = second :=
  eq_of_name_eq Stage.ofKeyword?_eq_some_iff heq

theorem name_injective {first second : Target} (heq : first.name = second.name) :
    first = second :=
  eq_of_name_eq Target.ofName?_eq_some_iff heq

theorem flagName_injective {first second : Flag} (heq : first.name = second.name) :
    first = second :=
  eq_of_name_eq Flag.ofName?_eq_some_iff heq

theorem mem_keywords_iff {keyword : Bytes} {mode : Mode} :
    (keyword, mode) ∈ keywords ↔ ∃ stage, Stage.keyword stage = keyword ∧ stage.baseMode = mode := by
  constructor
  · intro hmem
    simp only [keywords, List.mem_cons, Prod.mk.injEq, List.not_mem_nil, or_false] at hmem
    rcases hmem with ⟨rfl, rfl⟩ | ⟨rfl, rfl⟩ | ⟨rfl, rfl⟩
    · exact ⟨.lex, rfl, rfl⟩
    · exact ⟨.parse, rfl, rfl⟩
    · exact ⟨.compile, rfl, rfl⟩
  · rintro ⟨stage, rfl, rfl⟩
    cases stage <;> decide

theorem mem_targets_iff {name : Bytes} {mode : Mode} :
    (name, mode) ∈ targets ↔ ∃ target, Target.name target = name ∧ .compile target = mode := by
  constructor
  · intro hmem
    simp only [targets, List.mem_cons, Prod.mk.injEq, List.not_mem_nil, or_false] at hmem
    rcases hmem with ⟨rfl, rfl⟩ | ⟨rfl, rfl⟩ | ⟨rfl, rfl⟩
    · exact ⟨.wasm32, rfl, rfl⟩
    · exact ⟨.pvm, rfl, rfl⟩
    · exact ⟨.ir, rfl, rfl⟩
  · rintro ⟨target, rfl, rfl⟩
    cases target <;> decide

/-- Assumes: a table that gives the names of some values with their modes. A word stands in the
table exactly when it is a name. -/
theorem mem_map_fst_iff {α : Type} {table : List (Bytes × Mode)} {name : α → Bytes}
    {mode : α → Mode}
    (htable : ∀ word found, (word, found) ∈ table ↔ ∃ value, name value = word ∧ mode value = found)
    {word : Bytes} : word ∈ table.map Prod.fst ↔ ∃ value, name value = word := by
  rw [List.mem_map]
  constructor
  · rintro ⟨⟨word, found⟩, hmem, rfl⟩
    obtain ⟨value, hvalue, -⟩ := (htable word found).mp hmem
    exact ⟨value, hvalue⟩
  · rintro ⟨value, rfl⟩
    exact ⟨(name value, mode value), (htable _ _).mpr ⟨value, rfl, rfl⟩, rfl⟩

/-- The keywords of the grammar are those of the stages. -/
theorem mem_map_keywords_iff {keyword : Bytes} :
    keyword ∈ keywords.map Prod.fst ↔ ∃ stage, Stage.keyword stage = keyword :=
  mem_map_fst_iff fun _ _ ↦ mem_keywords_iff

/-- The target names of the grammar are those of the targets. -/
theorem mem_map_targets_iff {name : Bytes} :
    name ∈ targets.map Prod.fst ↔ ∃ target, Target.name target = name :=
  mem_map_fst_iff fun _ _ ↦ mem_targets_iff

/-- The group that a setting is written as. -/
def ofSetting (setting : Setting) : Group :=
  ⟨setting.flag.name, setting.value⟩

theorem flatMap_tokens_map_ofSetting (settings : List Setting) :
    (settings.map ofSetting).flatMap Group.tokens = settings.flatMap Setting.tokens := by
  rw [List.flatMap_map]
  rfl

theorem target_ne_out : utf8 "--target" ≠ utf8 "--out" := by
  decide

theorem keyword_eq_com_iff {stage : Stage} : stage.keyword = utf8 "com" ↔ stage = .compile := by
  cases stage <;> decide

/-- The groups that are allowed behind the keyword of a stage are those that the settings which the
stage takes are written as. -/
theorem isAllowed_keyword_iff {stage : Stage} {group : Group} :
    group.IsAllowed stage.keyword ↔
      ∃ setting, ofSetting setting = group ∧ setting.flag.isAllowedIn stage = true := by
  constructor
  · rintro (hflag | ⟨hkeyword, hflag, hvalue⟩)
    · refine ⟨.output group.value, ?_, rfl⟩
      rw [Group.mk.injEq]
      exact ⟨hflag.symm, rfl⟩
    · obtain ⟨target, htarget⟩ := mem_map_targets_iff.mp hvalue
      refine ⟨.target target, ?_, decide_eq_true (keyword_eq_com_iff.mp hkeyword)⟩
      rw [Group.mk.injEq]
      exact ⟨hflag.symm, htarget⟩
  · rintro ⟨setting, rfl, hallowed⟩
    cases setting with
    | output path => exact Or.inl rfl
    | target chosen =>
      exact Or.inr ⟨keyword_eq_com_iff.mpr (of_decide_eq_true hallowed), rfl,
        mem_map_targets_iff.mpr ⟨chosen, rfl⟩⟩

/-- Assumes: groups that are all allowed behind the keyword of a stage. They are what some list of
settings is written as. -/
theorem exists_settings_of_isAllowed {stage : Stage} {groups : List Group}
    (hallowed : ∀ group ∈ groups, group.IsAllowed stage.keyword) :
    ∃ settings : List Setting, settings.map ofSetting = groups ∧
      ∀ setting ∈ settings, setting.flag.isAllowedIn stage = true := by
  induction groups with
  | nil => exact ⟨[], rfl, fun _ hmem ↦ absurd hmem List.not_mem_nil⟩
  | cons group groups ih =>
    obtain ⟨setting, hsetting, hflag⟩ := isAllowed_keyword_iff.mp
      (hallowed group List.mem_cons_self)
    obtain ⟨settings, hsettings, hflags⟩ := ih fun member hmem ↦
      hallowed member (List.mem_cons_of_mem group hmem)
    refine ⟨setting :: settings, ?_, ?_⟩
    · rw [List.map_cons, hsetting, hsettings]
    · exact List.forall_mem_cons.mpr ⟨hflag, hflags⟩

/-! ### The last group decides -/

/-- A group in front counts only where no group behind it has the flag. -/
theorem lastValue?_cons (flag : Bytes) (group : Group) (groups : List Group) :
    lastValue? flag (group :: groups) =
      (lastValue? flag groups).or (if group.flag = flag then some group.value else none) := by
  unfold lastValue?
  by_cases hflag : group.flag = flag
  · rw [List.filter_cons_of_pos (by simpa using hflag), List.getLast?_cons, if_pos hflag]
    cases (groups.filter (·.flag = flag)).getLast? <;> rfl
  · rw [List.filter_cons_of_neg (by simpa using hflag), if_neg hflag, Option.or_none]

theorem input_applyAll (config : Config) (settings : List Setting) :
    (config.applyAll settings).input = config.input := by
  induction settings generalizing config with
  | nil => rfl
  | cons setting settings ih =>
    rw [Config.applyAll_cons, ih]
    cases setting <;> rfl

/-- The output path after settings is the last one among them, if there is one. -/
theorem output_applyAll (config : Config) (settings : List Setting) :
    (config.applyAll settings).output =
      (lastValue? (utf8 "--out") (settings.map ofSetting)).getD config.output := by
  induction settings generalizing config with
  | nil => rfl
  | cons setting settings ih =>
    rw [Config.applyAll_cons, ih, List.map_cons, lastValue?_cons]
    cases setting with
    | output path =>
      have hflag : (ofSetting (.output path)).flag = utf8 "--out" := rfl
      rw [if_pos hflag]
      cases lastValue? (utf8 "--out") (settings.map ofSetting) <;> rfl
    | target chosen =>
      have hflag : (ofSetting (.target chosen)).flag ≠ utf8 "--out" := target_ne_out
      rw [if_neg hflag, Option.or_none]
      rfl

/-- The mode after settings is that of the last target among them, if there is one. -/
theorem mode_applyAll (config : Config) (settings : List Setting) :
    (lastValue? (utf8 "--target") (settings.map ofSetting) = none ∧
      (config.applyAll settings).mode = config.mode) ∨
    ∃ name, lastValue? (utf8 "--target") (settings.map ofSetting) = some name ∧
      (name, (config.applyAll settings).mode) ∈ targets := by
  induction settings generalizing config with
  | nil => exact Or.inl ⟨rfl, rfl⟩
  | cons setting settings ih =>
    rw [Config.applyAll_cons, List.map_cons, lastValue?_cons]
    rcases ih (config.apply setting) with ⟨hnone, hmode⟩ | ⟨name, hname, hmode⟩
    · rw [hnone, hmode, Option.none_or]
      cases setting with
      | output path => exact Or.inl ⟨rfl, rfl⟩
      | target chosen =>
        exact Or.inr ⟨chosen.name, rfl, mem_targets_iff.mpr ⟨chosen, rfl, rfl⟩⟩
    · rw [hname, Option.some_or]
      exact Or.inr ⟨name, rfl, hmode⟩

/-! ### Acceptance -/

/-- The command line that a stage, an input path and settings make. -/
def CommandLine.ofSettings (stage : Stage) (input : Bytes) (settings : List Setting)
    (hinput : input ≠ [])
    (hallowed : ∀ setting ∈ settings, setting.flag.isAllowedIn stage = true) : CommandLine where
  keyword := stage.keyword
  input := input
  groups := settings.map ofSetting
  keyword_mem := mem_map_keywords_iff.mpr ⟨stage, rfl⟩
  input_ne_nil := hinput
  groups_allowed := by
    intro group hmem
    obtain ⟨setting, hsetting, rfl⟩ := List.mem_map.mp hmem
    exact isAllowed_keyword_iff.mpr ⟨setting, rfl, hallowed setting hsetting⟩

/-- The command line of a stage, an input path and settings means the initial configuration with
the settings applied. -/
theorem CommandLine.means_ofSettings (stage : Stage) {input : Bytes} {settings : List Setting}
    (hinput : input ≠ [])
    (hallowed : ∀ setting ∈ settings, setting.flag.isAllowedIn stage = true) :
    (CommandLine.ofSettings stage input settings hinput hallowed).Means
      ((Config.initial stage input).applyAll settings) := by
  have hmode := mode_applyAll (Config.initial stage input) settings
  refine ⟨input_applyAll _ settings, output_applyAll _ settings, ?_, ?_⟩
  · intro name hname
    change lastValue? _ (settings.map ofSetting) = some name at hname
    rcases hmode with ⟨hnone, -⟩ | ⟨found, hfound, hmem⟩
    · rw [hnone] at hname
      cases hname
    · rw [hfound] at hname
      cases hname
      exact hmem
  · intro hnone
    change lastValue? _ (settings.map ofSetting) = none at hnone
    rcases hmode with ⟨-, hmode⟩ | ⟨found, hfound, -⟩
    · rw [hmode]
      exact mem_keywords_iff.mpr ⟨stage, rfl, rfl⟩
    · rw [hfound] at hnone
      cases hnone

/-- A command line means at most one configuration, because no word stands twice in the tables. -/
theorem CommandLine.Means.unique {line : CommandLine} {first second : Config}
    (hfirst : line.Means first) (hsecond : line.Means second) : first = second := by
  have hmode : first.mode = second.mode := by
    cases hlast : lastValue? (utf8 "--target") line.groups with
    | none =>
      obtain ⟨stage, hstage, hbase⟩ := mem_keywords_iff.mp (hfirst.mode_of_keyword hlast)
      obtain ⟨other, hother, hbase'⟩ := mem_keywords_iff.mp (hsecond.mode_of_keyword hlast)
      rw [← hbase, ← hbase', keyword_injective (hstage.trans hother.symm)]
    | some name =>
      obtain ⟨target, htarget, hbase⟩ := mem_targets_iff.mp (hfirst.mode_of_target name hlast)
      obtain ⟨other, hother, hbase'⟩ := mem_targets_iff.mp (hsecond.mode_of_target name hlast)
      rw [← hbase, ← hbase', name_injective (htarget.trans hother.symm)]
  rw [Config.mk.injEq]
  exact ⟨hmode, hfirst.input.trans hsecond.input.symm, hfirst.output.trans hsecond.output.symm⟩

/-- The resolver accepts exactly the command lines of the grammar and answers with what they
mean. -/
theorem resolve_eq_ok_iff_commandLine (args : List Bytes) (config : Config) :
    resolve args = .ok config ↔
      ∃ line : CommandLine, line.arguments = args ∧ line.Means config := by
  rw [resolve_eq_ok_iff]
  constructor
  · rintro ⟨stage, input, arguments, settings, rfl, hinput, hread, rfl⟩
    obtain ⟨rfl, hallowed⟩ := readSettings_eq_ok_iff.mp hread
    refine ⟨CommandLine.ofSettings stage input settings hinput hallowed, ?_,
      CommandLine.means_ofSettings stage hinput hallowed⟩
    change stage.keyword :: input :: (settings.map ofSetting).flatMap Group.tokens = _
    rw [flatMap_tokens_map_ofSetting]
  · rintro ⟨⟨keyword, input, groups, hkeyword, hinput, hgroups⟩, rfl, hmeans⟩
    obtain ⟨stage, rfl⟩ := mem_map_keywords_iff.mp hkeyword
    obtain ⟨settings, rfl, hallowed⟩ := exists_settings_of_isAllowed hgroups
    refine ⟨stage, input, settings.flatMap Setting.tokens, settings, ?_, hinput,
      readSettings_eq_ok_iff.mpr ⟨rfl, hallowed⟩,
      hmeans.unique (CommandLine.means_ofSettings stage hinput hallowed)⟩
    change _ :: _ :: (settings.map ofSetting).flatMap Group.tokens = _
    rw [flatMap_tokens_map_ofSetting]

-- A value that is spelled like a flag is a value.
example :
    resolve [utf8 "com", utf8 "a", utf8 "--out", utf8 "--target", utf8 "--target", utf8 "pvm"] =
      .ok ⟨.compile .pvm, utf8 "a", utf8 "--target"⟩ :=
  rfl

end Invocation.Grammar
