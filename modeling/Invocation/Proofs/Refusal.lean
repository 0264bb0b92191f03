import Invocation.Proofs.Grammar

/-!
# Which refusal an argument list gets

Several things can be wrong with an argument list at once, and the leftmost one is reported. A
`Flaw` is what can be wrong at the front of the arguments that are still to be read. `FlawAt` says
where it stands: everything before it is accepted as a command line of its own. There is at most one
such place in a list (`FlawAt.rest_eq`), and where the list has a keyword and an input path, the
resolver refuses it exactly for the flaw at that place (`refused_complete_iff`).

`resolve_refusals` puts this together with what is wrong before any setting is read.
-/

set_option autoImplicit false
set_option relaxedAutoImplicit false

namespace Invocation

open Grammar

/-! ### Flaws -/

/-- What is wrong at the front of the arguments that are left to read behind a keyword: the kind of
the failure and the argument to blame. -/
inductive Flaw (keyword : Bytes) : List Bytes → Kind → Bytes → Prop
  | unknownFlag {flag : Bytes} (hout : flag ≠ utf8 "--out") (htarget : flag ≠ utf8 "--target")
      (rest : List Bytes) : Flaw keyword (flag :: rest) .unknownFlag flag
  | targetNotSupported (hkeyword : keyword = utf8 "lex" ∨ keyword = utf8 "parse")
      (rest : List Bytes) :
      Flaw keyword (utf8 "--target" :: rest) .targetNotSupported (utf8 "--target")
  | missingPath : Flaw keyword [utf8 "--out"] .missingValue (utf8 "--out")
  | missingTarget (hkeyword : keyword = utf8 "com") :
      Flaw keyword [utf8 "--target"] .missingValue (utf8 "--target")
  | unknownTarget (hkeyword : keyword = utf8 "com") {value : Bytes}
      (hvalue : value ∉ targets.map Prod.fst) (rest : List Bytes) :
      Flaw keyword (utf8 "--target" :: value :: rest) .unknownTarget value

/-- Whether an argument list is accepted. -/
def Accepted (args : List Bytes) : Prop :=
  ∃ config, resolve args = .ok config

/-- Whether an argument list is refused with a failure of a kind that blames an argument. -/
def RefusedWith (args : List Bytes) (kind : Kind) (token : Bytes) : Prop :=
  ∃ failure, resolve args = .error (.malformed failure) ∧ failure.kind = kind ∧
    failure.token = token

/-- Whether the end `rest` of an argument list begins with a flaw and all before it is accepted. -/
def FlawAt (args rest : List Bytes) (kind : Kind) (token : Bytes) : Prop :=
  ∃ keyword input front, args = (keyword :: input :: front) ++ rest ∧
    Accepted (keyword :: input :: front) ∧ Flaw keyword rest kind token

/-- A flaw is never behind the end of the list. -/
theorem FlawAt.rest_ne_nil {args rest : List Bytes} {kind : Kind} {token : Bytes}
    (hflaw : FlawAt args rest kind token) : rest ≠ [] := by
  obtain ⟨keyword, input, front, -, -, hflaw⟩ := hflaw
  cases hflaw <;> exact List.cons_ne_nil _ _

/-! ### Flaws are what the reader fails on -/

theorem keyword_eq_lex_or_parse_iff {stage : Stage} :
    stage.keyword = utf8 "lex" ∨ stage.keyword = utf8 "parse" ↔ stage ≠ .compile := by
  cases stage <;> decide

theorem not_mem_targets_iff {value : Bytes} :
    value ∉ targets.map Prod.fst ↔ Target.ofName? value = none := by
  rw [mem_map_targets_iff, Option.eq_none_iff_forall_ne_some]
  simp only [not_exists, ne_eq, Target.ofName?_eq_some_iff]

theorem ofName?_eq_none_iff {token : Bytes} :
    Flag.ofName? token = none ↔ token ≠ utf8 "--out" ∧ token ≠ utf8 "--target" := by
  rw [Option.eq_none_iff_forall_ne_some]
  simp only [ne_eq, Flag.ofName?_eq_some_iff]
  constructor
  · intro hnone
    exact ⟨fun heq ↦ hnone .out heq.symm, fun heq ↦ hnone .target heq.symm⟩
  · rintro ⟨hout, htarget⟩ (_ | _) heq
    · exact hout heq.symm
    · exact htarget heq.symm

/-- An argument that is not read as a flag is a flaw. -/
theorem Flaw.of_readFlag_error {stage : Stage} {token : Bytes} {failure : Failure}
    (hread : readFlag stage token = .error failure) (rest : List Bytes) :
    Flaw stage.keyword (token :: rest) failure.kind failure.token := by
  unfold readFlag at hread
  split at hread
  · next hfound =>
    cases hread
    obtain ⟨hout, htarget⟩ := ofName?_eq_none_iff.mp hfound
    exact .unknownFlag hout htarget rest
  · next flag hfound =>
    obtain rfl := Flag.ofName?_eq_some_iff.mp hfound
    cases flag with
    | out => cases hread
    | target =>
      have hstage : stage ≠ .compile := by
        rintro rfl
        cases hread
      have hfailure : failure = .targetNotSupported stage := by
        simpa [Flag.isAllowedIn, hstage] using hread.symm
      rw [hfailure]
      exact .targetNotSupported (keyword_eq_lex_or_parse_iff.mpr hstage) rest

/-- A flag that is the last argument is a flaw. -/
theorem Flaw.of_readFlag_ok {stage : Stage} {token : Bytes} {flag : Flag}
    (hread : readFlag stage token = .ok flag) :
    Flaw stage.keyword [token] .missingValue flag.name := by
  obtain ⟨rfl, hallowed⟩ := readFlag_eq_ok_iff.mp hread
  cases flag with
  | out => exact .missingPath
  | target => exact .missingTarget (keyword_eq_com_iff.mpr (of_decide_eq_true hallowed))

/-- A value that its flag does not take is a flaw. -/
theorem Flaw.of_readValue_error {stage : Stage} {token value : Bytes} {flag : Flag}
    {failure : Failure} (hflag : readFlag stage token = .ok flag)
    (hvalue : readValue value flag = .error failure) (rest : List Bytes) :
    Flaw stage.keyword (token :: value :: rest) failure.kind failure.token := by
  obtain ⟨rfl, hallowed⟩ := readFlag_eq_ok_iff.mp hflag
  cases flag with
  | out => cases hvalue
  | target =>
    cases hfound : Target.ofName? value with
    | none =>
      simp only [readValue, hfound] at hvalue
      cases hvalue
      exact .unknownTarget (keyword_eq_com_iff.mpr (of_decide_eq_true hallowed))
        (not_mem_targets_iff.mpr hfound) rest
    | some target =>
      simp only [readValue, hfound] at hvalue
      cases hvalue

/-- Where the reader fails, it has read settings up to a flaw and reports that flaw. -/
theorem exists_flaw_of_readSettings_error {stage : Stage} {arguments : List Bytes}
    {failure : Failure} (hread : readSettings stage arguments = .error failure) :
    ∃ front rest settings, arguments = front ++ rest ∧
      readSettings stage front = .ok settings ∧
        Flaw stage.keyword rest failure.kind failure.token := by
  fun_induction readSettings stage arguments with
  | case1 => cases hread
  | case2 token found hflag =>
    cases hread
    exact ⟨[], [token], [], rfl, rfl, .of_readFlag_error hflag []⟩
  | case3 token flag hflag =>
    cases hread
    exact ⟨[], [token], [], rfl, rfl, .of_readFlag_ok hflag⟩
  | case4 token value rest found hflag =>
    cases hread
    exact ⟨[], token :: value :: rest, [], rfl, rfl, .of_readFlag_error hflag _⟩
  | case5 token value rest flag hflag found hvalue =>
    cases hread
    exact ⟨[], token :: value :: rest, [], rfl, rfl, .of_readValue_error hflag hvalue rest⟩
  | case6 token value rest flag hflag setting hvalue found hrest ih =>
    cases hread
    obtain ⟨front, last, settings, hsplit, hfront, hflaw⟩ := ih hrest
    refine ⟨token :: value :: front, last, setting :: settings, ?_, ?_, hflaw⟩
    · rw [hsplit]
      rfl
    · simp only [readSettings, hflag, hvalue, hfront]
  | case7 => cases hread

/-- An argument that is not read as a flag ends the reading. -/
theorem readSettings_of_readFlag_error {stage : Stage} {token : Bytes} {failure : Failure}
    (hread : readFlag stage token = .error failure) (rest : List Bytes) :
    readSettings stage (token :: rest) = .error failure := by
  cases rest with
  | nil => simp only [readSettings, hread]
  | cons value rest => simp only [readSettings, hread]

theorem readFlag_target {stage : Stage} (hkeyword : stage.keyword = utf8 "com") :
    readFlag stage Flag.target.name = .ok .target :=
  readFlag_eq_ok_iff.mpr ⟨rfl, decide_eq_true (keyword_eq_com_iff.mp hkeyword)⟩

/-- A flaw makes the reader fail as the flaw says. -/
theorem Flaw.readSettings_eq_error {stage : Stage} {rest : List Bytes} {kind : Kind} {token : Bytes}
    (hflaw : Flaw stage.keyword rest kind token) :
    ∃ failure, readSettings stage rest = .error failure ∧ failure.kind = kind ∧
      failure.token = token := by
  cases hflaw with
  | unknownFlag hout htarget rest =>
    have hflag : readFlag stage token = .error (.unknownFlag token) := by
      simp only [readFlag, ofName?_eq_none_iff.mpr ⟨hout, htarget⟩]
    exact ⟨_, readSettings_of_readFlag_error hflag rest, rfl, rfl⟩
  | targetNotSupported hkeyword rest =>
    have hstage := keyword_eq_lex_or_parse_iff.mp hkeyword
    have hflag : readFlag stage Flag.target.name = .error (.targetNotSupported stage) := by
      simp only [readFlag, Flag.ofName?_eq_some_iff.mpr rfl, Flag.isAllowedIn, hstage]
      rfl
    exact ⟨_, readSettings_of_readFlag_error hflag rest, rfl, rfl⟩
  | missingPath =>
    have hflag : readFlag stage Flag.out.name = .ok .out := readFlag_eq_ok_iff.mpr ⟨rfl, rfl⟩
    refine ⟨.missingValue .out, ?_, rfl, rfl⟩
    change readSettings stage [Flag.out.name] = _
    simp only [readSettings, hflag]
  | missingTarget hkeyword =>
    have hflag := readFlag_target hkeyword
    refine ⟨.missingValue .target, ?_, rfl, rfl⟩
    change readSettings stage [Flag.target.name] = _
    simp only [readSettings, hflag]
  | unknownTarget hkeyword hvalue rest =>
    have hflag := readFlag_target hkeyword
    refine ⟨.unknownTarget token, ?_, rfl, rfl⟩
    change readSettings stage (Flag.target.name :: token :: rest) = _
    simp only [readSettings, hflag, readValue, not_mem_targets_iff.mp hvalue]

/-! ### There is one place for a flaw -/

/-- A group that is allowed is no flaw, whatever stands behind it. -/
theorem not_flaw_of_isAllowed {keyword : Bytes} {group : Group} {rest : List Bytes} {kind : Kind}
    {token : Bytes} (hallowed : group.IsAllowed keyword) :
    ¬ Flaw keyword (group.tokens ++ rest) kind token := by
  obtain ⟨flag, value⟩ := group
  intro hflaw
  change Flaw keyword (flag :: value :: rest) kind token at hflaw
  cases hflaw with
  | unknownFlag hout htarget =>
    rcases hallowed with hflag | ⟨-, hflag, -⟩
    · exact hout hflag
    · exact htarget hflag
  | targetNotSupported hkeyword =>
    rcases hallowed with hflag | ⟨hcom, -, -⟩
    · exact target_ne_out hflag
    · rw [hcom] at hkeyword
      exact absurd hkeyword (by decide)
  | unknownTarget hkeyword hvalue =>
    rcases hallowed with hflag | ⟨-, -, hname⟩
    · exact target_ne_out hflag
    · exact hvalue hname

/-- Assumes: arguments that are read as settings, also with more arguments behind them. If a flaw
begins with those further arguments, there are none. -/
theorem eq_nil_of_flaw {stage : Stage} {front middle rest : List Bytes}
    {settings more : List Setting} {kind : Kind} {token : Bytes}
    (hfront : readSettings stage front = .ok settings)
    (hmore : readSettings stage (front ++ middle) = .ok more)
    (hflaw : Flaw stage.keyword (middle ++ rest) kind token) : middle = [] := by
  rw [readSettings_append hfront] at hmore
  cases hmiddle : readSettings stage middle with
  | error failure =>
    rw [hmiddle] at hmore
    cases hmore
  | ok between =>
    obtain ⟨rfl, hallowed⟩ := readSettings_eq_ok_iff.mp hmiddle
    cases between with
    | nil => rfl
    | cons setting others =>
      have hgroup : (ofSetting setting).IsAllowed stage.keyword :=
        isAllowed_keyword_iff.mpr ⟨setting, rfl, hallowed setting List.mem_cons_self⟩
      rw [List.flatMap_cons, List.append_assoc] at hflaw
      exact absurd hflaw (not_flaw_of_isAllowed hgroup)

theorem accepted_complete_iff {keyword input : Bytes} {front : List Bytes} :
    Accepted (keyword :: input :: front) ↔
      ∃ stage settings, Stage.keyword stage = keyword ∧ input ≠ [] ∧
        readSettings stage front = .ok settings := by
  constructor
  · rintro ⟨config, haccepted⟩
    obtain ⟨stage, path, arguments, settings, heq, hinput, hread, -⟩ :=
      resolve_eq_ok_iff.mp haccepted
    cases heq
    exact ⟨stage, settings, rfl, hinput, hread⟩
  · rintro ⟨stage, settings, rfl, hinput, hread⟩
    exact ⟨_, resolve_complete_ok hinput hread⟩

/-- A list has one place at most at which a flaw stands behind accepted arguments. -/
theorem FlawAt.rest_eq {args rest other : List Bytes} {kind kind' : Kind} {token token' : Bytes}
    (hflaw : FlawAt args rest kind token) (hother : FlawAt args other kind' token') :
    other = rest := by
  obtain ⟨keyword, input, front, rfl, haccepted, hflaw⟩ := hflaw
  obtain ⟨keyword', input', front', heq, haccepted', hother⟩ := hother
  obtain ⟨stage, settings, rfl, hinput, hread⟩ := accepted_complete_iff.mp haccepted
  obtain ⟨stage', settings', rfl, hinput', hread'⟩ := accepted_complete_iff.mp haccepted'
  simp only [List.cons_append, List.cons.injEq] at heq
  obtain ⟨hkeyword, -, heq⟩ := heq
  obtain rfl := keyword_injective hkeyword
  -- One of the two accepted fronts extends the other, and what it adds begins with a flaw.
  rcases List.append_eq_append_iff.mp heq with ⟨middle, rfl, rfl⟩ | ⟨middle, rfl, rfl⟩
  · rw [eq_nil_of_flaw hread hread' hflaw]
    rfl
  · rw [eq_nil_of_flaw hread' hread hother]
    rfl

/-! ### The refusals -/

/-- Behind a keyword and an input path, the resolver refuses exactly for the flaw that the list
has. -/
theorem refused_complete_iff {stage : Stage} {input : Bytes} {arguments : List Bytes} {kind : Kind}
    {token : Bytes} (hinput : input ≠ []) :
    RefusedWith (stage.keyword :: input :: arguments) kind token ↔
      ∃ rest, FlawAt (stage.keyword :: input :: arguments) rest kind token := by
  constructor
  · rintro ⟨failure, hrefused, rfl, rfl⟩
    cases hread : readSettings stage arguments with
    | ok settings =>
      rw [resolve_complete_ok hinput hread] at hrefused
      cases hrefused
    | error found =>
      rw [resolve_complete_error hinput hread] at hrefused
      cases hrefused
      obtain ⟨front, rest, settings, rfl, hfront, hflaw⟩ :=
        exists_flaw_of_readSettings_error hread
      exact ⟨rest, stage.keyword, input, front, rfl,
        accepted_complete_iff.mpr ⟨stage, settings, rfl, hinput, hfront⟩, hflaw⟩
  · rintro ⟨rest, keyword, path, front, heq, haccepted, hflaw⟩
    obtain ⟨stage', settings, rfl, -, hfront⟩ := accepted_complete_iff.mp haccepted
    simp only [List.cons_append, List.cons.injEq] at heq
    obtain ⟨hkeyword, rfl, rfl⟩ := heq
    obtain rfl := keyword_injective hkeyword
    obtain ⟨failure, hrest, rfl, rfl⟩ := hflaw.readSettings_eq_error
    exact ⟨failure, resolve_complete_error hinput (readSettings_append_error hfront hrest), rfl, rfl⟩

/-- A flaw stands behind a keyword and an input path. -/
theorem FlawAt.complete {args rest : List Bytes} {kind : Kind} {token : Bytes}
    (hflaw : FlawAt args rest kind token) :
    ∃ stage input arguments, args = Stage.keyword stage :: input :: arguments ∧ input ≠ [] := by
  obtain ⟨keyword, input, front, rfl, haccepted, -⟩ := hflaw
  obtain ⟨stage, -, rfl, hinput, -⟩ := accepted_complete_iff.mp haccepted
  exact ⟨stage, input, front ++ rest, rfl, hinput⟩

/-- A flaw is not of the kinds that concern the keyword or the number of arguments. -/
theorem FlawAt.kind_ne {args rest : List Bytes} {kind : Kind} {token : Bytes}
    (hflaw : FlawAt args rest kind token) : kind ≠ .usage ∧ kind ≠ .invalidMode := by
  obtain ⟨keyword, input, front, -, -, hflaw⟩ := hflaw
  cases hflaw <;> decide

theorem refusedWith_iff_of_resolve {args : List Bytes} {failure : Failure} {kind : Kind}
    {token : Bytes} (hresolve : resolve args = .error (.malformed failure)) :
    RefusedWith args kind token ↔ failure.kind = kind ∧ failure.token = token := by
  constructor
  · rintro ⟨found, hfound, hkind, htoken⟩
    rw [hresolve] at hfound
    cases hfound
    exact ⟨hkind, htoken⟩
  · rintro ⟨hkind, htoken⟩
    exact ⟨failure, hresolve, hkind, htoken⟩

/-- A list that is too short is refused for that, unless it asks for help. -/
theorem refused_short_iff {args : List Bytes} {kind : Kind} {token : Bytes}
    (hlength : args.length < 2) :
    RefusedWith args kind token ↔ args ≠ [utf8 "help"] ∧ kind = .usage ∧ token = [] := by
  have hresolve := resolve_short hlength
  by_cases hhelp : args = [utf8 "help"]
  · rw [if_pos hhelp] at hresolve
    constructor
    · rintro ⟨failure, hrefused, -⟩
      rw [hresolve] at hrefused
      cases hrefused
    · exact fun h ↦ absurd hhelp h.1
  · rw [if_neg hhelp] at hresolve
    rw [refusedWith_iff_of_resolve hresolve]
    exact ⟨fun h ↦ ⟨hhelp, h.1.symm, h.2.symm⟩, fun h ↦ ⟨h.2.1.symm, h.2.2.symm⟩⟩

theorem not_mem_keywords_iff {keyword : Bytes} :
    keyword ∉ keywords.map Prod.fst ↔ Stage.ofKeyword? keyword = none := by
  rw [mem_map_keywords_iff, Option.eq_none_iff_forall_ne_some]
  simp only [not_exists, ne_eq, Stage.ofKeyword?_eq_some_iff]

/-- Only the word for help alone asks for help. -/
theorem resolve_eq_help_iff {args : List Bytes} :
    resolve args = .error .help ↔ args = [utf8 "help"] := by
  constructor
  · intro hhelp
    cases outline args with
    | short hlength =>
      by_cases hword : args = [utf8 "help"]
      · exact hword
      · rw [resolve_short hlength, if_neg hword] at hhelp
        cases hhelp
    | noKeyword hkeyword input arguments =>
      rw [resolve_noKeyword hkeyword] at hhelp
      cases hhelp
    | noInput stage arguments =>
      rw [resolve_noInput] at hhelp
      cases hhelp
    | complete stage hinput arguments =>
      cases hread : readSettings stage arguments with
      | ok settings =>
        rw [resolve_complete_ok hinput hread] at hhelp
        cases hhelp
      | error failure =>
        rw [resolve_complete_error hinput hread] at hhelp
        cases hhelp
  · rintro rfl
    rfl

/-- What a refusal can be for: the number of arguments or the input path, the first argument, or a
flaw. -/
theorem RefusedWith.cases {args : List Bytes} {kind : Kind} {token : Bytes}
    (hrefused : RefusedWith args kind token) :
    (kind = .usage ∧ token = [] ∧ (args.length < 2 ∧ args ≠ [utf8 "help"] ∨
        ∃ keyword rest, args = keyword :: [] :: rest ∧ keyword ∈ keywords.map Prod.fst)) ∨
      (kind = .invalidMode ∧ token ∉ keywords.map Prod.fst ∧
        ∃ input rest, args = token :: input :: rest) ∨
      ∃ rest, FlawAt args rest kind token := by
  cases outline args with
  | short hlength =>
    obtain ⟨hhelp, hkind, htoken⟩ := (refused_short_iff hlength).mp hrefused
    exact Or.inl ⟨hkind, htoken, Or.inl ⟨hlength, hhelp⟩⟩
  | noKeyword hkeyword input arguments =>
    obtain ⟨rfl, rfl⟩ := (refusedWith_iff_of_resolve (resolve_noKeyword hkeyword _ _)).mp hrefused
    exact Or.inr (Or.inl ⟨rfl, not_mem_keywords_iff.mpr hkeyword, input, arguments, rfl⟩)
  | noInput stage arguments =>
    obtain ⟨rfl, rfl⟩ := (refusedWith_iff_of_resolve (resolve_noInput _ _)).mp hrefused
    exact Or.inl ⟨rfl, rfl, Or.inr ⟨_, _, rfl, mem_map_keywords_iff.mpr ⟨stage, rfl⟩⟩⟩
  | complete stage hinput arguments =>
    exact Or.inr (Or.inr ((refused_complete_iff hinput).mp hrefused))

/-- What is refused for its number of arguments or its input path. -/
theorem refused_usage_iff {args : List Bytes} {token : Bytes} :
    RefusedWith args .usage token ↔ token = [] ∧
      (args.length < 2 ∧ args ≠ [utf8 "help"] ∨
        ∃ keyword rest, args = keyword :: [] :: rest ∧ keyword ∈ keywords.map Prod.fst) := by
  constructor
  · intro hrefused
    rcases hrefused.cases with ⟨-, husage⟩ | ⟨hkind, -⟩ | ⟨rest, hflaw⟩
    · exact husage
    · cases hkind
    · exact absurd rfl hflaw.kind_ne.1
  · rintro ⟨rfl, ⟨hlength, hhelp⟩ | ⟨keyword, rest, rfl, hkeyword⟩⟩
    · exact (refused_short_iff hlength).mpr ⟨hhelp, rfl, rfl⟩
    · obtain ⟨stage, rfl⟩ := mem_map_keywords_iff.mp hkeyword
      exact ⟨.emptyInput, resolve_noInput stage rest, rfl, rfl⟩

/-- What is refused for its first argument, whatever the second one is. -/
theorem refused_invalidMode_iff {args : List Bytes} {token : Bytes} :
    RefusedWith args .invalidMode token ↔
      token ∉ keywords.map Prod.fst ∧ ∃ input rest, args = token :: input :: rest := by
  constructor
  · intro hrefused
    rcases hrefused.cases with ⟨hkind, -⟩ | ⟨-, hmode⟩ | ⟨rest, hflaw⟩
    · cases hkind
    · exact hmode
    · exact absurd rfl hflaw.kind_ne.2
  · rintro ⟨hkeyword, input, rest, rfl⟩
    exact ⟨.invalidMode token, resolve_noKeyword (not_mem_keywords_iff.mp hkeyword) input rest, rfl,
      rfl⟩

/-- Every other refusal is for a flaw. -/
theorem refused_flaw_iff {args : List Bytes} {kind : Kind} {token : Bytes} :
    RefusedWith args kind token ∧ kind ≠ .usage ∧ kind ≠ .invalidMode ↔
      ∃ rest, FlawAt args rest kind token := by
  constructor
  · rintro ⟨hrefused, husage, hmode⟩
    rcases hrefused.cases with ⟨hkind, -⟩ | ⟨hkind, -⟩ | hflaw
    · exact absurd hkind husage
    · exact absurd hkind hmode
    · exact hflaw
  · rintro ⟨rest, hflaw⟩
    obtain ⟨stage, input, arguments, rfl, hinput⟩ := hflaw.complete
    exact ⟨(refused_complete_iff hinput).mpr ⟨rest, hflaw⟩, hflaw.kind_ne⟩

/-- Every refusal has its exact condition: the request for help, a list that is too short or has no
input path, a first argument that is no keyword, and otherwise the one flaw that stands behind
accepted arguments. -/
theorem resolve_refusals (args : List Bytes) :
    (resolve args = .error .help ↔ args = [utf8 "help"]) ∧
    (∀ token, RefusedWith args .usage token ↔ token = [] ∧
      (args.length < 2 ∧ args ≠ [utf8 "help"] ∨
        ∃ keyword rest, args = keyword :: [] :: rest ∧ keyword ∈ keywords.map Prod.fst)) ∧
    (∀ token, RefusedWith args .invalidMode token ↔
      token ∉ keywords.map Prod.fst ∧ ∃ input rest, args = token :: input :: rest) ∧
    (∀ kind token, RefusedWith args kind token ∧ kind ≠ .usage ∧ kind ≠ .invalidMode ↔
      ∃ rest, rest ≠ [] ∧ FlawAt args rest kind token ∧
        ∀ other kind' token', FlawAt args other kind' token' → other = rest) := by
  refine ⟨resolve_eq_help_iff, fun token ↦ refused_usage_iff, fun token ↦ refused_invalidMode_iff,
    fun kind token ↦ ?_⟩
  rw [refused_flaw_iff]
  constructor
  · rintro ⟨rest, hflaw⟩
    exact ⟨rest, hflaw.rest_ne_nil, hflaw, fun other kind' token' hother ↦ hflaw.rest_eq hother⟩
  · rintro ⟨rest, -, hflaw, -⟩
    exact ⟨rest, hflaw⟩

end Invocation
