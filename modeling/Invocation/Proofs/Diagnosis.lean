import Invocation.Proofs.Quotation
import Invocation.Resolve

/-!
# A message identifies its cause

The message of a failure is made for a reader, but nothing of the failure that callers tell apart is
lost in it: `cause?` finds the kind and the token again in the message alone (`cause?_message`). The
words with which a message opens tell the kind, because no opening is the front of another one
(`openings_apart`), and the kind tells where in the message the token stands (`Kind.tokenIn`). A
token that the user made up stands there as a quoted token, and the words around it hold no
quotation mark, so a token cannot pass for the words of a message.

`resolve_message_identifies` says this of what the resolver refuses.
-/

set_option autoImplicit false
set_option relaxedAutoImplicit false

namespace Invocation

open Text

/-! ### Reading a message -/

/-- The words with which messages open, each with the kind of failure that it tells. -/
def openings : List (Bytes × Kind) :=
  [(utf8 "expected at least ", .usage), (utf8 "expected a non-empty ", .usage),
   (utf8 "invalid compilation mode ", .invalidMode), (utf8 "unknown compiler flag ", .unknownFlag),
   (utf8 "expected value after ", .missingValue), (utf8 "--target", .targetNotSupported),
   (utf8 "unknown target ", .unknownTarget)]

/-- The token that a message about a failure of a kind blames. -/
def Kind.tokenIn (message : Bytes) : Kind → Bytes
  | usage => []
  | missingValue =>
    (message.drop (utf8 "expected value after ").length).takeWhile (· ≠ ascii ' ')
  | targetNotSupported => utf8 "--target"
  | invalidMode => unescape (quotedPart message)
  | unknownFlag => unescape (quotedPart message)
  | unknownTarget => unescape (quotedPart message)

/-- The kind and the token of the failure that a message is about. -/
def cause? (message : Bytes) : Option (Kind × Bytes) :=
  (openings.find? (·.1.isPrefixOf message)).map fun opening ↦
    (opening.2, opening.2.tokenIn message)

/-! ### Opening words -/

/-- Whether neither of two texts is the front of the other. -/
def Apart (first second : Bytes) : Prop :=
  ¬ first <+: second ∧ ¬ second <+: first

instance (first second : Bytes) : Decidable (Apart first second) :=
  inferInstanceAs (Decidable (_ ∧ _))

/-- No opening is the front of another one. -/
theorem openings_apart : openings.Pairwise (Apart ·.1 ·.1) := by
  decide

/-- Assumes: openings of which none is the front of another one. A message that begins with one of
them is found to begin with that one, whatever follows it. -/
theorem find?_eq_some_of_mem {list : List (Bytes × Kind)} (hapart : list.Pairwise (Apart ·.1 ·.1))
    {words message : Bytes} {kind : Kind} (hmem : (words, kind) ∈ list)
    (hopens : words <+: message) :
    list.find? (·.1.isPrefixOf message) = some (words, kind) := by
  induction list with
  | nil => exact absurd hmem List.not_mem_nil
  | cons opening list ih =>
    obtain ⟨hhead, htail⟩ := List.pairwise_cons.mp hapart
    rcases List.mem_cons.mp hmem with rfl | hmem
    · exact List.find?_cons_of_pos (List.isPrefixOf_iff_prefix.mpr hopens)
    · -- Of two fronts of one message, one is the front of the other.
      have hother : ¬ opening.1 <+: message := by
        intro hopening
        rcases List.prefix_or_prefix_of_prefix hopening hopens with hfront | hfront
        · exact (hhead _ hmem).1 hfront
        · exact (hhead _ hmem).2 hfront
      refine (List.find?_cons_of_neg ?_).trans (ih htail hmem)
      exact mt List.isPrefixOf_iff_prefix.mp hother

/-- The message of every failure begins with an opening of its kind. -/
theorem Failure.exists_opening (failure : Failure) :
    ∃ words, (words, failure.kind) ∈ openings ∧ words <+: failure.message := by
  cases failure with
  | tooFewArguments => exact ⟨utf8 "expected at least ", by decide, by decide⟩
  | emptyInput => exact ⟨utf8 "expected a non-empty ", by decide, by decide⟩
  | invalidMode token =>
    have hmem : (utf8 "invalid compilation mode ", Kind.invalidMode) ∈ openings := by decide
    refine ⟨_, hmem, ?_⟩
    simp only [message, List.append_assoc, List.prefix_append]
  | unknownFlag token =>
    have hmem : (utf8 "unknown compiler flag ", Kind.unknownFlag) ∈ openings := by decide
    exact ⟨_, hmem, List.prefix_append _ _⟩
  | missingValue flag =>
    have hmem : (utf8 "expected value after ", Kind.missingValue) ∈ openings := by decide
    refine ⟨_, hmem, ?_⟩
    simp only [message, List.append_assoc, List.prefix_append]
  | targetNotSupported stage =>
    have hmem : (Flag.target.name, Kind.targetNotSupported) ∈ openings := by decide
    refine ⟨_, hmem, ?_⟩
    simp only [message, List.append_assoc, List.prefix_append]
  | unknownTarget token =>
    have hmem : (utf8 "unknown target ", Kind.unknownTarget) ∈ openings := by decide
    refine ⟨_, hmem, ?_⟩
    simp only [message, List.append_assoc, List.prefix_append]

/-! ### The cause in the message -/

/-- The token of a failure stands in its message where the kind says. -/
theorem Failure.tokenIn_message (failure : Failure) :
    failure.kind.tokenIn failure.message = failure.token := by
  cases failure with
  | tooFewArguments => rfl
  | emptyInput => rfl
  | invalidMode token =>
    change unescape (quotedPart (_ ++ quote token ++ _ ++ _)) = token
    rw [List.append_assoc]
    exact unescape_quotedPart (by decide) (by decide) token
  | unknownFlag token =>
    change unescape (quotedPart (utf8 "unknown compiler flag " ++ quote token)) = token
    rw [← List.append_nil (_ ++ quote token)]
    exact unescape_quotedPart (by decide) (by decide) token
  | missingValue flag => cases flag <;> rfl
  | targetNotSupported stage => rfl
  | unknownTarget token =>
    change unescape (quotedPart (_ ++ quote token ++ _ ++ _)) = token
    rw [List.append_assoc]
    exact unescape_quotedPart (by decide) (by decide) token

/-- Nothing of the kind and the token of a failure is lost in its message. -/
theorem cause?_message (failure : Failure) :
    cause? failure.message = some (failure.kind, failure.token) := by
  obtain ⟨words, hmem, hopens⟩ := failure.exists_opening
  rw [cause?, find?_eq_some_of_mem openings_apart hmem hopens, Option.map_some,
    failure.tokenIn_message]

/-- A message identifies the cause of a refusal. Refusals with the same message are of the same kind
and blame the same token; and where the token is one that the user made up, its bytes are what the
escapes in the quoted part of the message stand for. -/
theorem resolve_message_identifies (first second : List Bytes) :
    ∀ failure other, resolve first = .error (.malformed failure) →
      resolve second = .error (.malformed other) →
        (failure.message = other.message →
          failure.kind = other.kind ∧ failure.token = other.token) ∧
        (failure.kind = .invalidMode ∨ failure.kind = .unknownFlag ∨
            failure.kind = .unknownTarget →
          unescape (quotedPart failure.message) = failure.token) := by
  intro failure other _ _
  constructor
  · intro hmessage
    have hcause : some (failure.kind, failure.token) = some (other.kind, other.token) := by
      rw [← cause?_message failure, ← cause?_message other, hmessage]
    exact Prod.mk.inj (Option.some.inj hcause)
  · intro hkind
    have htoken := failure.tokenIn_message
    rcases hkind with hkind | hkind | hkind
    all_goals
      rw [hkind] at htoken
      exact htoken

/-- Two lists with the same first argument, which is no keyword. It holds a stray byte, both marks,
the replacement character, a control character above the ASCII range and the last one within it. -/
theorem resolve_message_identifies_stray :
    let token : Bytes := [0xFF, 0x22, 0x5C, 0xEF, 0xBF, 0xBD, 0xC2, 0x80, 0x7F]
    let failure : Failure := .invalidMode token
    resolve [token, utf8 "a"] = .error (.malformed failure) ∧
      quotedPart failure.message = utf8 "\\xff\\\"\\\\\uFFFD\\u0080\\x7f" ∧
      unescape (quotedPart failure.message) = token ∧
      ∃ other, resolve [token, utf8 "b", utf8 "c"] = .error (.malformed other) ∧
        failure.message = other.message ∧ failure.kind = other.kind ∧
        failure.token = other.token := by
  intro token failure
  have hfirst : resolve [token, utf8 "a"] = .error (.malformed failure) := rfl
  have hsecond : resolve [token, utf8 "b", utf8 "c"] = .error (.malformed failure) := rfl
  obtain ⟨hsame, hquoted⟩ := resolve_message_identifies _ _ failure failure hfirst hsecond
  exact ⟨hfirst, by decide +kernel, hquoted (Or.inl rfl), failure, hsecond, rfl, hsame rfl⟩

end Invocation
