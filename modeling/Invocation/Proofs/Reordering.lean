import Invocation.Proofs.Refusal

/-!
# The order of groups

Behind a keyword and an input path stand groups of two arguments, which need not be well formed
(`groupLine`). Whether they are accepted is a question about each group alone
(`accepted_groupLine_iff`), so their order does not matter for it. What they mean is told by the
last group of each flag (`resolve_groupLine_of_lastValue?_eq`), so only the order among the groups
of one flag matters, and a group with another one of its flag behind it does not matter at all.

`resolve_groups_reordered` says this of permutations and of deletions.
-/

set_option autoImplicit false
set_option relaxedAutoImplicit false

namespace Invocation

open Grammar

/-! ### Command lines as groups -/

/-- A keyword, an input path and groups, whatever they are. -/
def groupLine (keyword input : Bytes) (groups : List Group) : List Bytes :=
  keyword :: input :: groups.flatMap Group.tokens

/-- Arguments are cut into groups in one way only. -/
theorem eq_of_flatMap_tokens_eq {first second : List Group}
    (heq : first.flatMap Group.tokens = second.flatMap Group.tokens) : first = second := by
  induction first generalizing second with
  | nil =>
    cases second with
    | nil => rfl
    | cons group second => cases heq
  | cons group first ih =>
    cases second with
    | nil => cases heq
    | cons other second =>
      obtain ⟨flag, value⟩ := group
      obtain ⟨flag', value'⟩ := other
      simp only [List.flatMap_cons, Group.tokens, List.cons_append, List.nil_append,
        List.cons.injEq] at heq
      obtain ⟨rfl, rfl, heq⟩ := heq
      rw [ih heq]

/-- Groups are accepted with a configuration exactly when they make a well-formed command line that
means it. -/
theorem resolve_groupLine_eq_ok_iff {keyword input : Bytes} {groups : List Group}
    {config : Config} :
    resolve (groupLine keyword input groups) = .ok config ↔
      ∃ line : CommandLine, line.keyword = keyword ∧ line.input = input ∧ line.groups = groups ∧
        line.Means config := by
  rw [resolve_eq_ok_iff]
  constructor
  · rintro ⟨stage, path, arguments, settings, heq, hinput, hread, rfl⟩
    obtain ⟨rfl, rfl, rfl⟩ : keyword = stage.keyword ∧ input = path ∧
        groups.flatMap Group.tokens = arguments := by
      simpa only [groupLine, List.cons.injEq] using heq
    obtain ⟨hwritten, hallowed⟩ := readSettings_eq_ok_iff.mp hread
    rw [← flatMap_tokens_map_ofSetting] at hwritten
    exact ⟨.ofSettings stage input settings hinput hallowed, rfl, rfl,
      (eq_of_flatMap_tokens_eq hwritten).symm, CommandLine.means_ofSettings stage hinput hallowed⟩
  · rintro ⟨⟨keyword, input, groups, hkeyword, hinput, hgroups⟩, rfl, rfl, rfl, hmeans⟩
    obtain ⟨stage, rfl⟩ := mem_map_keywords_iff.mp hkeyword
    obtain ⟨settings, rfl, hallowed⟩ := exists_settings_of_isAllowed hgroups
    refine ⟨stage, input, settings.flatMap Setting.tokens, settings, ?_, hinput,
      readSettings_eq_ok_iff.mpr ⟨rfl, hallowed⟩,
      hmeans.unique (CommandLine.means_ofSettings stage hinput hallowed)⟩
    rw [groupLine, flatMap_tokens_map_ofSetting]

/-- Groups are accepted exactly when each of them is allowed behind the keyword. -/
theorem accepted_groupLine_iff {keyword input : Bytes} {groups : List Group} :
    Accepted (groupLine keyword input groups) ↔
      keyword ∈ keywords.map Prod.fst ∧ input ≠ [] ∧
        ∀ group ∈ groups, group.IsAllowed keyword := by
  constructor
  · rintro ⟨config, hconfig⟩
    obtain ⟨line, rfl, rfl, rfl, -⟩ := resolve_groupLine_eq_ok_iff.mp hconfig
    exact ⟨line.keyword_mem, line.input_ne_nil, line.groups_allowed⟩
  · rintro ⟨hkeyword, hinput, hgroups⟩
    obtain ⟨stage, rfl⟩ := mem_map_keywords_iff.mp hkeyword
    obtain ⟨settings, rfl, hallowed⟩ := exists_settings_of_isAllowed hgroups
    exact ⟨_, resolve_groupLine_eq_ok_iff.mpr ⟨.ofSettings stage input settings hinput hallowed,
      rfl, rfl, rfl, CommandLine.means_ofSettings stage hinput hallowed⟩⟩

/-! ### What the last group of each flag tells -/

/-- Assumes: two command lines with the same keyword and input path, of which the last group of each
flag has the same value. What one means, the other means. -/
theorem Grammar.CommandLine.Means.of_lastValue?_eq {line other : CommandLine} {config : Config}
    (hmeans : line.Means config) (hkeyword : line.keyword = other.keyword)
    (hinput : line.input = other.input)
    (hlast : ∀ flag : Flag, lastValue? flag.name line.groups = lastValue? flag.name other.groups) :
    other.Means config := by
  have hout : lastValue? (utf8 "--out") line.groups = lastValue? (utf8 "--out") other.groups :=
    hlast .out
  have htarget : lastValue? (utf8 "--target") line.groups =
      lastValue? (utf8 "--target") other.groups := hlast .target
  obtain ⟨input, output, mode_of_target, mode_of_keyword⟩ := hmeans
  rw [hinput] at input
  rw [hout] at output
  rw [htarget] at mode_of_target
  rw [htarget, hkeyword] at mode_of_keyword
  exact ⟨input, output, mode_of_target, mode_of_keyword⟩

/-- Assumes: groups that are accepted, and others that are accepted too, of which the last group of
each flag has the same value. Both have the same configuration. -/
theorem resolve_groupLine_of_lastValue?_eq {keyword input : Bytes} {first second : List Group}
    {config : Config} (hfirst : resolve (groupLine keyword input first) = .ok config)
    (hsecond : Accepted (groupLine keyword input second))
    (hlast : ∀ flag : Flag, lastValue? flag.name first = lastValue? flag.name second) :
    resolve (groupLine keyword input second) = .ok config := by
  obtain ⟨line, rfl, rfl, rfl, hmeans⟩ := resolve_groupLine_eq_ok_iff.mp hfirst
  obtain ⟨found, hfound⟩ := hsecond
  obtain ⟨other, hkeyword, hinput, rfl, -⟩ := resolve_groupLine_eq_ok_iff.mp hfound
  exact resolve_groupLine_eq_ok_iff.mpr ⟨other, hkeyword, hinput, rfl,
    hmeans.of_lastValue?_eq hkeyword.symm hinput.symm hlast⟩

/-! ### Reordering -/

/-- Assumes: groups in another order. They are accepted or refused alike. -/
theorem accepted_groupLine_perm {keyword input : Bytes} {first second : List Group}
    (hperm : first.Perm second) :
    Accepted (groupLine keyword input first) ↔ Accepted (groupLine keyword input second) := by
  rw [accepted_groupLine_iff, accepted_groupLine_iff]
  simp only [hperm.mem_iff]

/-- Assumes: groups in another order, but those of each flag in the same. They are accepted with the
same configuration. -/
theorem resolve_groupLine_perm {keyword input : Bytes} {first second : List Group} {config : Config}
    (hperm : first.Perm second)
    (hfilter : ∀ flag : Flag,
      first.filter (·.flag = flag.name) = second.filter (·.flag = flag.name))
    (hfirst : resolve (groupLine keyword input first) = .ok config) :
    resolve (groupLine keyword input second) = .ok config := by
  refine resolve_groupLine_of_lastValue?_eq hfirst
    ((accepted_groupLine_perm hperm).mp ⟨config, hfirst⟩) fun flag ↦ ?_
  rw [lastValue?, lastValue?, hfilter flag]

/-! ### Deleting -/

/-- The last group of a flag is looked for in the back part first. -/
theorem lastValue?_append (flag : Bytes) (front back : List Group) :
    lastValue? flag (front ++ back) = (lastValue? flag back).or (lastValue? flag front) := by
  rw [lastValue?, List.filter_append, List.getLast?_append, Option.map_or]
  rfl

/-- Assumes: a group among others. Its flag has a last group. -/
theorem isSome_lastValue?_of_mem {group : Group} {groups : List Group} (hmem : group ∈ groups) :
    (lastValue? group.flag groups).isSome = true := by
  have hfilter : group ∈ groups.filter (·.flag = group.flag) :=
    List.mem_filter.mpr ⟨hmem, decide_eq_true rfl⟩
  rw [lastValue?, Option.isSome_map]
  exact List.getLast?_isSome.mpr (List.ne_nil_of_mem hfilter)

/-- Assumes: a group with another one of its flag behind it. It is the last one of no flag. -/
theorem lastValue?_of_later {dropped later : Group} {after : List Group} (hlater : later ∈ after)
    (hflag : later.flag = dropped.flag) (flag : Bytes) (before : List Group) :
    lastValue? flag (before ++ dropped :: after) = lastValue? flag (before ++ after) := by
  have hcons : lastValue? flag (dropped :: after) = lastValue? flag after := by
    rw [lastValue?_cons]
    by_cases hdropped : dropped.flag = flag
    · rw [← hdropped, ← hflag]
      exact Option.or_of_isSome (isSome_lastValue?_of_mem hlater)
    · rw [if_neg hdropped, Option.or_none]
  rw [lastValue?_append, lastValue?_append, hcons]

/-- Assumes: accepted groups, one of them with another one of its flag behind it. Without it they
are accepted with the same configuration. -/
theorem resolve_groupLine_delete {keyword input : Bytes} {before after : List Group}
    {dropped later : Group} {config : Config} (hlater : later ∈ after)
    (hflag : later.flag = dropped.flag)
    (hresolve : resolve (groupLine keyword input (before ++ dropped :: after)) = .ok config) :
    resolve (groupLine keyword input (before ++ after)) = .ok config := by
  obtain ⟨hkeyword, hinput, hgroups⟩ := accepted_groupLine_iff.mp ⟨config, hresolve⟩
  -- The groups that are left are allowed as before, so it remains to compare the last ones.
  have hshorter : Accepted (groupLine keyword input (before ++ after)) := by
    refine accepted_groupLine_iff.mpr ⟨hkeyword, hinput, fun group hmem ↦ hgroups group ?_⟩
    rw [List.mem_append] at hmem ⊢
    exact hmem.imp_right (List.mem_cons_of_mem dropped)
  exact resolve_groupLine_of_lastValue?_eq hresolve hshorter fun flag ↦
    lastValue?_of_later hlater hflag flag.name before

/-! ### The law -/

/-- Groups in another order are accepted or refused alike, and if those with the flag for the output
path and those with the flag for the target keep their order among themselves, with the same
configuration. A group with another one of its flag behind it can be deleted from what is accepted
without a change to the configuration. -/
theorem resolve_groups_reordered (keyword input : Bytes) :
    (∀ first second : List Group, first.Perm second →
      (Accepted (groupLine keyword input first) ↔ Accepted (groupLine keyword input second)) ∧
      (first.filter (·.flag = utf8 "--out") = second.filter (·.flag = utf8 "--out") →
        first.filter (·.flag = utf8 "--target") = second.filter (·.flag = utf8 "--target") →
          ∀ config, resolve (groupLine keyword input first) = .ok config ↔
            resolve (groupLine keyword input second) = .ok config)) ∧
    ∀ (before after : List Group) (dropped later : Group) (config : Config),
      resolve (groupLine keyword input (before ++ dropped :: after)) = .ok config →
        later ∈ after → later.flag = dropped.flag →
          resolve (groupLine keyword input (before ++ after)) = .ok config := by
  refine ⟨fun first second hperm ↦ ⟨accepted_groupLine_perm hperm, ?_⟩, ?_⟩
  · intro hout htarget config
    have hfilter (flag : Flag) :
        first.filter (·.flag = flag.name) = second.filter (·.flag = flag.name) := by
      cases flag with
      | out => exact hout
      | target => exact htarget
    constructor
    · exact resolve_groupLine_perm hperm hfilter
    · exact resolve_groupLine_perm hperm.symm fun flag ↦ (hfilter flag).symm
  · intro before after dropped later config hresolve hlater hflag
    exact resolve_groupLine_delete hlater hflag hresolve

/-- A target between two output paths may stand in front of both, and the first of the two output
paths may be left out. -/
theorem resolve_groups_reordered_target :
    let draft : Group := ⟨utf8 "--out", utf8 "--target"⟩
    let target : Group := ⟨utf8 "--target", utf8 "ir"⟩
    let path : Group := ⟨utf8 "--out", utf8 "b"⟩
    let config : Config := ⟨.compile .ir, utf8 "a", utf8 "b"⟩
    [draft, target, path].Perm [target, draft, path] ∧
      resolve (groupLine (utf8 "com") (utf8 "a") [draft, target, path]) = .ok config ∧
      resolve (groupLine (utf8 "com") (utf8 "a") [target, draft, path]) = .ok config ∧
      resolve (groupLine (utf8 "com") (utf8 "a") [target, path]) = .ok config := by
  intro draft target path config
  have hperm : [draft, target, path].Perm [target, draft, path] := .swap target draft [path]
  have hresolve : resolve (groupLine (utf8 "com") (utf8 "a") [draft, target, path]) = .ok config :=
    rfl
  obtain ⟨hreorder, hdelete⟩ := resolve_groups_reordered (utf8 "com") (utf8 "a")
  exact ⟨hperm, hresolve, ((hreorder _ _ hperm).2 (by decide) (by decide) config).mp hresolve,
    hdelete [] [target, path] draft path config hresolve (by decide) rfl⟩

end Invocation
