import Invocation.Proofs.Refusal

/-!
# Shorter and longer argument lists

What the resolver answers to an argument list says much about the lists that begin with it and about
those that it begins with. A cut through an accepted list falls between two settings, and then the
front is accepted, or between a flag and its value, and then the value is missed
(`readSettings_front`). Any failure other than a missed value is there to stay
(`readSettings_append_of_error`). A missed value is missed at the very end, behind arguments that
are accepted (`RefusedWith.exists_concat`), so the next argument decides.

`resolve_cut_and_extend` says this of whole argument lists.
-/

set_option autoImplicit false
set_option relaxedAutoImplicit false

namespace Invocation

open Grammar

/-! ### Cutting arguments that are read -/

/-- Assumes: arguments that are read as settings. Of an even number of them the front is read as
settings, and of an odd number the value of the last one is missed. -/
theorem readSettings_front {stage : Stage} {front rest : List Bytes} {settings : List Setting}
    (hread : readSettings stage (front ++ rest) = .ok settings) :
    (front.length % 2 = 0 ∧ ∃ found, readSettings stage front = .ok found) ∨
      (front.length % 2 = 1 ∧ ∃ flag, readSettings stage front = .error (.missingValue flag) ∧
        front.getLast? = some flag.name) := by
  obtain ⟨hsplit, hallowed⟩ := readSettings_eq_ok_iff.mp hread
  clear hread
  induction settings generalizing front with
  | nil =>
    obtain ⟨rfl, -⟩ := List.append_eq_nil_iff.mp hsplit
    exact Or.inl ⟨rfl, [], rfl⟩
  | cons setting settings ih =>
    have hflag : readFlag stage setting.flag.name = .ok setting.flag :=
      readFlag_eq_ok_iff.mpr ⟨rfl, hallowed setting List.mem_cons_self⟩
    have hvalue : readValue setting.value setting.flag = .ok setting :=
      readValue_eq_ok_iff.mpr ⟨rfl, rfl⟩
    rw [List.flatMap_cons, Setting.tokens] at hsplit
    -- The cut falls before the flag, between the flag and its value, or behind both.
    rcases front with _ | ⟨token, _ | ⟨value, front⟩⟩
    · exact Or.inl ⟨rfl, [], rfl⟩
    · obtain ⟨rfl, -⟩ := List.cons.inj hsplit
      exact Or.inr ⟨rfl, setting.flag, by simp only [readSettings, hflag], rfl⟩
    · simp only [List.cons_append, List.nil_append, List.cons.injEq] at hsplit
      obtain ⟨rfl, rfl, hsplit⟩ := hsplit
      have hrest := ih hsplit fun member hmember ↦
        hallowed member (List.mem_cons_of_mem setting hmember)
      have hparity : (setting.flag.name :: setting.value :: front).length % 2 = front.length % 2 :=
        Nat.add_mod_right front.length 2
      rw [hparity]
      rcases hrest with ⟨heven, found, hfound⟩ | ⟨hodd, flag, hmissing, hlast⟩
      · exact Or.inl ⟨heven, setting :: found, by simp only [readSettings, hflag, hvalue, hfound]⟩
      · refine Or.inr ⟨hodd, flag, by simp only [readSettings, hflag, hvalue, hmissing], ?_⟩
        rw [List.getLast?_cons, List.getLast?_cons, hlast]
        rfl

theorem Accepted.not_refusedWith {args : List Bytes} (haccepted : Accepted args) (kind : Kind)
    (token : Bytes) : ¬ RefusedWith args kind token := by
  rintro ⟨failure, hrefused, -⟩
  obtain ⟨config, hconfig⟩ := haccepted
  rw [hconfig] at hrefused
  cases hrefused

/-- Assumes: the front of an accepted list, with a keyword and an input path at least. It is accepted
if its length is even, and otherwise the value of its last argument is missed. -/
theorem Accepted.front {args front : List Bytes} (haccepted : Accepted args)
    (hfront : front <+: args) (hlength : 2 ≤ front.length) :
    (front.length % 2 = 0 ∧ Accepted front) ∨
      (front.length % 2 = 1 ∧ ∃ token, front.getLast? = some token ∧
        RefusedWith front .missingValue token) := by
  obtain ⟨rest, rfl⟩ := hfront
  rcases front with _ | ⟨keyword, _ | ⟨input, front⟩⟩
  · cases hlength
  · exact absurd hlength (Nat.not_succ_le_self 1)
  · obtain ⟨stage, settings, rfl, hinput, hread⟩ := accepted_complete_iff.mp haccepted
    have hparity : (stage.keyword :: input :: front).length % 2 = front.length % 2 :=
      Nat.add_mod_right front.length 2
    rw [hparity]
    rcases readSettings_front hread with ⟨heven, found, hfound⟩ | ⟨hodd, flag, hmissing, hlast⟩
    · exact Or.inl ⟨heven, accepted_complete_iff.mpr ⟨stage, found, rfl, hinput, hfound⟩⟩
    · refine Or.inr ⟨hodd, flag.name, ?_, _, resolve_complete_error hinput hmissing, rfl, rfl⟩
      rw [List.getLast?_cons, List.getLast?_cons, hlast]
      rfl

/-- An accepted list has an even number of arguments. -/
theorem Accepted.length_even {args : List Bytes} (haccepted : Accepted args) :
    args.length % 2 = 0 := by
  have hlength : 2 ≤ args.length := by
    obtain ⟨config, hconfig⟩ := haccepted
    obtain ⟨stage, input, arguments, settings, rfl, -⟩ := resolve_eq_ok_iff.mp hconfig
    exact Nat.le_add_left 2 arguments.length
  rcases haccepted.front List.prefix_rfl hlength with ⟨heven, -⟩ | ⟨-, token, -, hrefused⟩
  · exact heven
  · exact absurd hrefused (haccepted.not_refusedWith _ token)

/-! ### Extending arguments that are not read -/

/-- Assumes: a failure that is not for a missed value. It stays whatever is put behind the
arguments. -/
theorem readSettings_append_of_error {stage : Stage} {arguments : List Bytes} {failure : Failure}
    (hread : readSettings stage arguments = .error failure) (hkind : failure.kind ≠ .missingValue)
    (rest : List Bytes) : readSettings stage (arguments ++ rest) = .error failure := by
  -- The reader asks whether the list ends only behind a lone flag, and there it misses the value.
  fun_induction readSettings stage arguments with
  | case1 => cases hread
  | case2 token found hflag =>
    cases hread
    exact readSettings_of_readFlag_error hflag rest
  | case3 token flag hflag =>
    cases hread
    exact absurd rfl hkind
  | case4 token value others found hflag =>
    cases hread
    exact readSettings_of_readFlag_error hflag _
  | case5 token value others flag hflag found hvalue =>
    cases hread
    simp only [List.cons_append, readSettings, hflag, hvalue]
  | case6 token value others flag hflag setting hvalue found hothers ih =>
    cases hread
    simp only [List.cons_append, readSettings, hflag, hvalue, ih hothers]
  | case7 => cases hread

/-- Assumes: a list with a first and a second argument that is refused, and not for a missed value.
It is refused for the same failure whatever is put behind it. -/
theorem resolve_append_of_error {args : List Bytes} {failure : Failure} (hlength : 2 ≤ args.length)
    (hrefused : resolve args = .error (.malformed failure)) (hkind : failure.kind ≠ .missingValue)
    (rest : List Bytes) : resolve (args ++ rest) = .error (.malformed failure) := by
  cases outline args with
  | short hshort => omega
  | noKeyword hkeyword input arguments =>
    rw [← hrefused, resolve_noKeyword hkeyword]
    exact resolve_noKeyword hkeyword input (arguments ++ rest)
  | noInput stage arguments =>
    rw [← hrefused, resolve_noInput]
    exact resolve_noInput stage (arguments ++ rest)
  | complete stage hinput arguments =>
    cases hread : readSettings stage arguments with
    | ok settings =>
      rw [resolve_complete_ok hinput hread] at hrefused
      cases hrefused
    | error found =>
      rw [resolve_complete_error hinput hread] at hrefused
      cases hrefused
      exact resolve_complete_error hinput (readSettings_append_of_error hread hkind rest)

/-! ### A missed value -/

/-- Assumes: a list that is refused for a missed value. It ends with a flag that its stage takes, and
what stands in front of that flag is accepted. -/
theorem RefusedWith.exists_concat {args : List Bytes} {token : Bytes}
    (hrefused : RefusedWith args .missingValue token) :
    ∃ stage input front settings flag,
      args = (Stage.keyword stage :: input :: front) ++ [Flag.name flag] ∧ token = flag.name ∧
        input ≠ [] ∧ readSettings stage front = .ok settings ∧ flag.isAllowedIn stage = true := by
  obtain ⟨rest, keyword, input, front, rfl, haccepted, hflaw⟩ :=
    refused_flaw_iff.mp ⟨hrefused, by decide, by decide⟩
  obtain ⟨stage, settings, rfl, hinput, hread⟩ := accepted_complete_iff.mp haccepted
  cases hflaw with
  | missingPath => exact ⟨stage, input, front, settings, .out, rfl, rfl, hinput, hread, rfl⟩
  | missingTarget hkeyword =>
    exact ⟨stage, input, front, settings, .target, rfl, rfl, hinput, hread,
      decide_eq_true (keyword_eq_com_iff.mp hkeyword)⟩

/-- Assumes: a list that is refused for a missed value. The value that is put behind it decides. -/
theorem RefusedWith.exists_flag {args : List Bytes} {token : Bytes}
    (hrefused : RefusedWith args .missingValue token) :
    ∃ flag, args.getLast? = some (Flag.name flag) ∧ token = flag.name ∧ Accepted args.dropLast ∧
      ∀ value, (∀ setting, readValue value flag = .ok setting → Accepted (args ++ [value])) ∧
        ∀ failure, readValue value flag = .error failure →
          resolve (args ++ [value]) = .error (.malformed failure) := by
  obtain ⟨stage, input, front, settings, flag, rfl, rfl, hinput, hread, hallowed⟩ :=
    hrefused.exists_concat
  have hflag : readFlag stage flag.name = .ok flag := readFlag_eq_ok_iff.mpr ⟨rfl, hallowed⟩
  refine ⟨flag, List.getLast?_concat, rfl, ?_, fun value ↦ ?_⟩
  · rw [List.dropLast_concat]
    exact accepted_complete_iff.mpr ⟨stage, settings, rfl, hinput, hread⟩
  · have hpair := readSettings_append hread [flag.name, value]
    rw [List.append_assoc]
    constructor
    · intro setting hvalue
      simp only [readSettings, hflag, hvalue] at hpair
      exact accepted_complete_iff.mpr ⟨stage, _, rfl, hinput, hpair⟩
    · intro failure hvalue
      simp only [readSettings, hflag, hvalue] at hpair
      exact resolve_complete_error hinput hpair

/-- Assumes: a list that is refused because the output path is missed. Any path completes it. -/
theorem RefusedWith.concat_path {args : List Bytes}
    (hrefused : RefusedWith args .missingValue (utf8 "--out")) (value : Bytes) :
    Accepted (args ++ [value]) := by
  obtain ⟨flag, -, hname, -, hvalue⟩ := hrefused.exists_flag
  cases flag with
  | out => exact (hvalue value).1 (.output value) rfl
  | target => exact absurd hname.symm target_ne_out

/-- Assumes: a list that is refused because the target is missed. The names of the targets complete
it, and anything else is blamed as an unknown target. -/
theorem RefusedWith.concat_target {args : List Bytes}
    (hrefused : RefusedWith args .missingValue (utf8 "--target")) (value : Bytes) :
    (Accepted (args ++ [value]) ↔ value ∈ targets.map Prod.fst) ∧
      (value ∉ targets.map Prod.fst → RefusedWith (args ++ [value]) .unknownTarget value) := by
  obtain ⟨flag, -, hname, -, hvalue⟩ := hrefused.exists_flag
  cases flag with
  | out => exact absurd hname target_ne_out
  | target =>
    have hunknown : value ∉ targets.map Prod.fst →
        RefusedWith (args ++ [value]) .unknownTarget value := by
      intro hmem
      have hread : readValue value .target = .error (.unknownTarget value) := by
        simp only [readValue, not_mem_targets_iff.mp hmem]
      exact ⟨_, (hvalue value).2 _ hread, rfl, rfl⟩
    refine ⟨⟨fun haccepted ↦ ?_, fun hmem ↦ ?_⟩, hunknown⟩
    · by_cases hmem : value ∈ targets.map Prod.fst
      · exact hmem
      · exact absurd (hunknown hmem) (haccepted.not_refusedWith _ value)
    · obtain ⟨target, rfl⟩ := mem_map_targets_iff.mp hmem
      exact (hvalue _).1 (.target target) (readValue_eq_ok_iff.mpr ⟨rfl, rfl⟩)

/-! ### The law -/

/-- What an answer says about shorter and longer argument lists. An accepted list has an even length,
and a front of it that holds the keyword and the input path is accepted if its length is even and
misses the value of its last argument if not. A list that is refused for anything but a missed value
is refused for the same failure with any arguments behind it. A list that is refused for a missed
value is accepted without its last argument, which is a flag, and one more argument completes it
exactly if it is a value of that flag. -/
theorem resolve_cut_and_extend (args : List Bytes) :
    (Accepted args → args.length % 2 = 0 ∧ ∀ front, front <+: args →
      (2 ≤ front.length → front.length % 2 = 0 → Accepted front) ∧
      (3 ≤ front.length → front.length % 2 = 1 →
        ∃ token, front.getLast? = some token ∧ RefusedWith front .missingValue token)) ∧
    (∀ failure, 2 ≤ args.length → resolve args = .error (.malformed failure) →
      failure.kind ≠ .missingValue →
        ∀ rest, resolve (args ++ rest) = .error (.malformed failure)) ∧
    (∀ token, RefusedWith args .missingValue token → Accepted args.dropLast ∧
      (args.getLast? = some (utf8 "--out") ∨ args.getLast? = some (utf8 "--target")) ∧
      ∀ value,
        (args.getLast? = some (utf8 "--out") → Accepted (args ++ [value])) ∧
        (args.getLast? = some (utf8 "--target") →
          (Accepted (args ++ [value]) ↔ value ∈ targets.map Prod.fst) ∧
          (value ∉ targets.map Prod.fst → RefusedWith (args ++ [value]) .unknownTarget value))) := by
  refine ⟨fun haccepted ↦ ⟨haccepted.length_even, fun front hfront ↦ ⟨?_, ?_⟩⟩, ?_, ?_⟩
  · intro hlength heven
    rcases haccepted.front hfront hlength with ⟨-, hfront⟩ | ⟨hodd, -⟩
    · exact hfront
    · omega
  · intro hlength hodd
    rcases haccepted.front hfront (Nat.le_of_succ_le hlength) with ⟨heven, -⟩ | ⟨-, hmissing⟩
    · omega
    · exact hmissing
  · intro failure hlength hrefused hkind rest
    exact resolve_append_of_error hlength hrefused hkind rest
  · intro token hrefused
    obtain ⟨flag, hlast, rfl, hfront, -⟩ := hrefused.exists_flag
    rw [hlast]
    refine ⟨hfront, ?_, fun value ↦ ⟨fun hname ↦ ?_, fun hname ↦ ?_⟩⟩
    · cases flag with
      | out => exact Or.inl rfl
      | target => exact Or.inr rfl
    · rw [Option.some.inj hname] at hrefused
      exact hrefused.concat_path value
    · rw [Option.some.inj hname] at hrefused
      exact hrefused.concat_target value

/-- The law at a list that is accepted, at one that no argument can mend, and at one that lacks the
name of a target. -/
theorem resolve_cut_and_extend_compile :
    (Accepted [utf8 "com", utf8 "a", utf8 "--out", utf8 "b"] ∧
      ∃ token, [utf8 "com", utf8 "a", utf8 "--out"].getLast? = some token ∧
        RefusedWith [utf8 "com", utf8 "a", utf8 "--out"] .missingValue token) ∧
    (resolve [utf8 "com", utf8 "a", utf8 "b"] =
        .error (.malformed (.unknownFlag (utf8 "b"))) ∧
      resolve [utf8 "com", utf8 "a", utf8 "b", utf8 "--out"] =
        .error (.malformed (.unknownFlag (utf8 "b")))) ∧
    (RefusedWith [utf8 "com", utf8 "a", utf8 "--target"] .missingValue (utf8 "--target") ∧
      Accepted [utf8 "com", utf8 "a", utf8 "--target", utf8 "ir"] ∧
      RefusedWith [utf8 "com", utf8 "a", utf8 "--target", utf8 "b"] .unknownTarget (utf8 "b")) := by
  have haccepted : Accepted [utf8 "com", utf8 "a", utf8 "--out", utf8 "b"] := ⟨_, rfl⟩
  have hunknown : resolve [utf8 "com", utf8 "a", utf8 "b"] =
      .error (.malformed (.unknownFlag (utf8 "b"))) := rfl
  have hmissing : RefusedWith [utf8 "com", utf8 "a", utf8 "--target"] .missingValue
      (utf8 "--target") := ⟨.missingValue .target, rfl, rfl, rfl⟩
  have hcut := ((resolve_cut_and_extend _).1 haccepted).2 [utf8 "com", utf8 "a", utf8 "--out"]
    ⟨[utf8 "b"], rfl⟩
  have hextend := (resolve_cut_and_extend _).2.1 _ (by decide) hunknown (by decide)
  have hvalue := ((resolve_cut_and_extend _).2.2 _ hmissing).2.2
  exact ⟨⟨haccepted, hcut.2 (by decide) (by decide)⟩, ⟨hunknown, hextend [utf8 "--out"]⟩, hmissing,
    ((hvalue (utf8 "ir")).2 rfl).1.mpr (by decide), ((hvalue (utf8 "b")).2 rfl).2 (by decide)⟩

end Invocation
