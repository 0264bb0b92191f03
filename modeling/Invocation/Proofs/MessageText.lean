import Invocation.Fault
import Invocation.Proofs.Decoding
import Invocation.Proofs.Refusal

/-!
# Messages are clean text

The message of a refusal goes to a terminal or a log, and the arguments that it shows may be any
bytes. `resolve_message_clean` says that it is text on one line all the same: it is well-formed,
every character that is read from it is printable, and none is a control character, neither of the
ASCII range nor above it.

An argument that the user made up is quoted. Two messages show arguments as they are, and these are
safe for another reason: the reader gets to them only with a flag that it knows and a keyword that
is one (`Flaw.token_mem`, `stage_eq_of_readSettings`).
-/

set_option autoImplicit false
set_option relaxedAutoImplicit false

namespace Invocation

open Text

/-! ### Printable characters -/

/-- Whether a character is a control character, of the ASCII range or above it. -/
def Text.isControlChar (c : Char) : Bool :=
  c.toNat < 0x20 || (0x7F ≤ c.toNat && c.toNat ≤ 0x9F)

theorem Text.isControlChar_of_isPrintable {c : Char} (hprintable : isPrintable c = true) :
    isControlChar c = false := by
  have hnumber := not_control_of_isPrintable hprintable
  rw [isControlChar, Bool.or_eq_false_iff, Bool.and_eq_false_iff, decide_eq_false_iff_not,
    decide_eq_false_iff_not, decide_eq_false_iff_not]
  omega

/-- Assumes: a printable text. It is well-formed, and what is read from it is printable and no
control character. -/
theorem Text.IsPrintableText.exists_chars {text : Bytes} (hprintable : IsPrintableText text) :
    ∃ chars : List Char, chars.flatMap encodeChar = text ∧ pieces text = chars.map .char ∧
      ∀ c ∈ chars, isPrintable c = true ∧ isControlChar c = false := by
  obtain ⟨chars, hchars, htext⟩ := hprintable
  exact ⟨chars, htext, pieces_eq_map_char_iff.mpr htext, fun c hc ↦
    ⟨hchars c hc, isControlChar_of_isPrintable (hchars c hc)⟩⟩

/-- The message of every refusal is printable, that of the request for help included. -/
theorem Refusal.isPrintableText_message (refusal : Refusal) :
    IsPrintableText refusal.fault.message := by
  cases refusal with
  | help => exact isPrintableText_of_ascii (by decide)
  | malformed failure => exact failure.isPrintableText_message

/-! ### Arguments that are shown as they are -/

/-- The argument that a flaw blames is one of those that are left to read. -/
theorem Flaw.token_mem {keyword : Bytes} {rest : List Bytes} {kind : Kind} {token : Bytes}
    (hflaw : Flaw keyword rest kind token) : token ∈ rest := by
  cases hflaw with
  | unknownFlag hout htarget rest => exact List.mem_cons_self
  | targetNotSupported hkeyword rest => exact List.mem_cons_self
  | missingPath => exact List.mem_cons_self
  | missingTarget hkeyword => exact List.mem_cons_self
  | unknownTarget hkeyword hvalue rest => exact List.mem_cons_of_mem _ List.mem_cons_self

theorem RefusedWith.token_mem {args : List Bytes} {kind : Kind} {token : Bytes}
    (hrefused : RefusedWith args kind token) (husage : kind ≠ .usage)
    (hmode : kind ≠ .invalidMode) : token ∈ args := by
  obtain ⟨rest, keyword, input, front, rfl, -, hflaw⟩ :=
    refused_flaw_iff.mp ⟨hrefused, husage, hmode⟩
  exact List.mem_append_right _ hflaw.token_mem

theorem stage_eq_of_readFlag {stage other : Stage} {token : Bytes}
    (hread : readFlag stage token = .error (.targetNotSupported other)) : other = stage := by
  unfold readFlag at hread
  split at hread
  · cases hread
  · split at hread
    · cases hread
    · cases hread
      rfl

/-- A target that is not supported is reported for the stage whose arguments are read. -/
theorem stage_eq_of_readSettings {stage other : Stage} {arguments : List Bytes}
    (hread : readSettings stage arguments = .error (.targetNotSupported other)) :
    other = stage := by
  fun_induction readSettings stage arguments with
  | case1 => cases hread
  | case2 token found hflag =>
    cases hread
    exact stage_eq_of_readFlag hflag
  | case3 => cases hread
  | case4 token value rest found hflag =>
    cases hread
    exact stage_eq_of_readFlag hflag
  | case5 token value rest flag hflag found hvalue =>
    cases hread
    -- A value is refused only as the name of a target.
    cases flag with
    | out => cases hvalue
    | target =>
      simp only [readValue] at hvalue
      split at hvalue <;> cases hvalue
  | case6 token value rest flag hflag setting hvalue found hrest ih =>
    cases hread
    exact ih hrest
  | case7 => cases hread

/-- Where a target is not supported, the keyword in the message is the first argument. -/
theorem head?_eq_of_targetNotSupported {args : List Bytes} {stage : Stage}
    (hrefused : resolve args = .error (.malformed (.targetNotSupported stage))) :
    args.head? = some stage.keyword := by
  cases outline args with
  | short hlength =>
    rw [resolve_short hlength] at hrefused
    split at hrefused <;> cases hrefused
  | noKeyword hkeyword input arguments =>
    rw [resolve_noKeyword hkeyword] at hrefused
    cases hrefused
  | noInput other arguments =>
    rw [resolve_noInput] at hrefused
    cases hrefused
  | complete other hinput arguments =>
    cases hread : readSettings other arguments with
    | ok settings =>
      rw [resolve_complete_ok hinput hread] at hrefused
      cases hrefused
    | error failure =>
      rw [resolve_complete_error hinput hread] at hrefused
      cases hrefused
      rw [stage_eq_of_readSettings hread]
      rfl

/-- Assumes: a list that is refused because of a target that is not supported. Its first argument is
one of the keywords that take no target. -/
theorem RefusedWith.keyword_of_targetNotSupported {args : List Bytes} {token : Bytes}
    (hrefused : RefusedWith args .targetNotSupported token) :
    args.head? = some (utf8 "lex") ∨ args.head? = some (utf8 "parse") := by
  obtain ⟨rest, keyword, input, front, rfl, -, hflaw⟩ :=
    refused_flaw_iff.mp ⟨hrefused, by decide, by decide⟩
  cases hflaw with
  | targetNotSupported hkeyword rest =>
    rcases hkeyword with rfl | rfl
    · exact Or.inl rfl
    · exact Or.inr rfl

/-! ### The law -/

/-- Assumes: a list that is refused. The message of the refusal is well-formed text of printable
characters on one line, whatever bytes the arguments hold. The two messages that show arguments as
they are show a flag of the program and, for a target that is not supported, the keyword. -/
theorem resolve_message_clean (args : List Bytes) (refusal : Refusal)
    (hrefused : resolve args = .error refusal) :
    (∃ chars : List Char, chars.flatMap encodeChar = refusal.fault.message ∧
      pieces refusal.fault.message = chars.map .char ∧
      ∀ c ∈ chars, isPrintable c = true ∧ isControlChar c = false) ∧
    (∀ byte ∈ refusal.fault.message, isControl byte = false) ∧
    ∀ failure, refusal = .malformed failure →
      (failure.kind = .missingValue →
        failure.token ∈ args ∧ (failure.token = utf8 "--out" ∨ failure.token = utf8 "--target") ∧
        refusal.fault.message = utf8 "expected value after " ++ failure.token ++ utf8 " flag") ∧
      (failure.kind = .targetNotSupported →
        failure.token ∈ args ∧ failure.token = utf8 "--target" ∧
        ∃ keyword, args.head? = some keyword ∧ (keyword = utf8 "lex" ∨ keyword = utf8 "parse") ∧
          refusal.fault.message = failure.token ++ utf8 " is not supported by the " ++ keyword ++
            utf8 " mode, use com") := by
  have hprintable := refusal.isPrintableText_message
  refine ⟨hprintable.exists_chars, hprintable.isClean, ?_⟩
  rintro failure rfl
  have hwith : RefusedWith args failure.kind failure.token := ⟨failure, hrefused, rfl, rfl⟩
  constructor
  · intro hkind
    rw [hkind] at hwith
    refine ⟨hwith.token_mem (by decide) (by decide), ?_⟩
    cases failure with
    | missingValue flag =>
      cases flag with
      | out => exact ⟨Or.inl rfl, rfl⟩
      | target => exact ⟨Or.inr rfl, rfl⟩
    | _ => cases hkind
  · intro hkind
    rw [hkind] at hwith
    refine ⟨hwith.token_mem (by decide) (by decide), ?_⟩
    cases failure with
    | targetNotSupported stage =>
      have hhead := head?_eq_of_targetNotSupported hrefused
      have hkeyword := hwith.keyword_of_targetNotSupported
      rw [hhead, Option.some.injEq, Option.some.injEq] at hkeyword
      exact ⟨rfl, stage.keyword, hhead, hkeyword, List.append_assoc _ _ _⟩
    | _ => cases hkind

/-- A flag that nobody knows and that would clear the screen, start a new line, turn the text around
and end in the middle of a character; and a flag that lacks its value. -/
theorem resolve_message_clean_escape :
    let token : Bytes := utf8 "\x1b[2J\n\u202E" ++ [0xE2, 0x80]
    let failure : Failure := .unknownFlag token
    let args := [utf8 "com", utf8 "a", utf8 "--out"]
    resolve [utf8 "lex", utf8 "a", token] = .error (.malformed failure) ∧
      failure.message = utf8 "unknown compiler flag \"\\x1b[2J\\n\\u202e\\xe2\\x80\"" ∧
      (∀ byte ∈ failure.message, isControl byte = false) ∧
      resolve args = .error (.malformed (.missingValue .out)) ∧ utf8 "--out" ∈ args := by
  intro token failure args
  have hfirst : resolve [utf8 "lex", utf8 "a", token] = .error (.malformed failure) := rfl
  have hsecond : resolve args = .error (.malformed (.missingValue .out)) := rfl
  obtain ⟨-, hclean, -⟩ := resolve_message_clean _ _ hfirst
  obtain ⟨-, -, hraw⟩ := resolve_message_clean _ _ hsecond
  exact ⟨hfirst, by decide +kernel, hclean, hsecond, ((hraw _ rfl).1 rfl).1⟩

end Invocation
