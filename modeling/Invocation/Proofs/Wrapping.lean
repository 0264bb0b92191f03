import Invocation.Fault
import Invocation.Proofs.Refusal

/-!
# What can be told about a fault through its wraps

Callers wrap a fault any number of times and in any order before somebody asks what it is. An
`Origin` is what can stand innermost: nothing at all, the request for help, a diagnostic that
anybody made up, an error of another part of the system, or what the resolver answers.

One more wrap changes what can be told in a fixed way (`Classification.behind`,
`classify_wrapOne`), so a list of wraps changes it by its enclosures and by its notes alone
(`classify_wrapAll`): a single enclosure hides the kind wherever it stands, nothing hides the
request for help, and the notes stand in front of the text with the last one first.
`classify_wrapAll_origin` says what that means for each origin.

What the resolver answers is a fault of one form for each outcome, with the kind, the token and the
message of the failure where there is one (`faultOf_resolve_eq_diagnostic_iff`). So what can be told
about an argument list behind any wraps is told by its refusal alone (`classify_wrapAll_resolve`).
-/

set_option autoImplicit false
set_option relaxedAutoImplicit false

namespace Invocation

/-! ### One wrap -/

/-- The kind is seen through a transparent wrap and through no other. -/
theorem Fault.kind?_wrapped (wrap : Wrap) (inner : Fault) :
    (wrapped wrap inner).kind? = if wrap.isTransparent then inner.kind? else none := by
  unfold kind?
  rw [cause]
  by_cases htransparent : wrap.isTransparent = true
  · rw [if_pos htransparent, if_pos htransparent]
  · rw [if_neg htransparent, if_neg htransparent]

/-- All wraps but enclosures are transparent. -/
theorem Wrap.isTransparent_iff {wrap : Wrap} :
    wrap.isTransparent = true ↔ ∀ note, wrap ≠ .enclosure note := by
  cases wrap <;> simp [isTransparent]

/-- What can be told after one more wrap by somebody who could tell something before. -/
def Classification.behind (seen : Classification) (wrap : Wrap) : Classification where
  kind? := if wrap.isTransparent then seen.kind? else none
  isHelp := seen.isHelp
  message? := seen.message?.map (wrap.heading ++ ·)

/-- A wrap changes what can be told in the same way whatever it is put around. -/
theorem classify_wrapOne (fault? : Option Fault) (wrap : Wrap) :
    classify (wrapOne fault? wrap) = (classify fault?).behind wrap := by
  cases fault? with
  | none =>
    simp only [classify, wrapOne, Classification.behind, Option.map_none, Option.bind_none,
      Option.any_none, ite_self]
  | some fault =>
    simp only [classify, wrapOne, Classification.behind, Option.map_some, Option.bind_some,
      Option.any_some, Fault.kind?_wrapped, Fault.isHelp, Fault.message]

/-! ### Many wraps -/

/-- The notes of wraps from the last to the first, each with a colon and a space behind it. -/
def headings (wraps : List Wrap) : Bytes :=
  (wraps.reverse.filterMap Wrap.note?).flatMap (· ++ utf8 ": ")

theorem headings_cons (wrap : Wrap) (wraps : List Wrap) :
    headings (wrap :: wraps) = headings wraps ++ wrap.heading := by
  unfold headings
  rw [List.reverse_cons, List.filterMap_append, List.flatMap_append]
  congr 1
  cases wrap <;> simp [Wrap.heading, Wrap.note?]

/-- What can be told after a list of wraps: the kind if no wrap hides it, whether help was asked for
in any case, and the text behind all notes. -/
theorem classify_wrapAll (fault? : Option Fault) (wraps : List Wrap) :
    classify (wrapAll fault? wraps) =
      { kind? := if wraps.all Wrap.isTransparent then (classify fault?).kind? else none
        isHelp := (classify fault?).isHelp
        message? := (classify fault?).message?.map (headings wraps ++ ·) } := by
  induction wraps generalizing fault? with
  | nil => cases fault? <;> rfl
  | cons wrap wraps ih =>
    change classify (wrapAll (wrapOne fault? wrap) wraps) = _
    rw [ih, classify_wrapOne, Classification.mk.injEq]
    refine ⟨?_, rfl, ?_⟩
    · change (if _ then if wrap.isTransparent then _ else _ else _) = _
      rw [List.all_cons]
      by_cases htransparent : wrap.isTransparent = true
      · rw [htransparent, Bool.true_and, if_pos rfl]
      · rw [if_neg htransparent, eq_false_of_ne_true htransparent, ite_self]
        rfl
    · change ((classify fault?).message?.map (wrap.heading ++ ·)).map (headings wraps ++ ·) = _
      rw [Option.map_map]
      congr 1
      funext text
      rw [headings_cons, List.append_assoc]
      rfl

/-- What can stand behind all wraps. -/
inductive Origin where
  /-- Nothing went wrong. -/
  | nothing
  /-- The request for help. -/
  | help
  /-- A diagnostic, whoever made it up. -/
  | diagnostic (found : Diagnostic)
  /-- An error of another part of the system. -/
  | foreign (text : Bytes)
  /-- The answer of the resolver to an argument list. -/
  | resolution (args : List Bytes)
  deriving DecidableEq, Repr

namespace Origin

/-- The fault that an origin is, unless nothing went wrong. -/
def fault? : Origin → Option Fault
  | nothing => none
  | help => some .help
  | diagnostic found => some (.diagnostic found)
  | foreign text => some (.foreign text)
  | resolution args => faultOf (resolve args)

/-- No origin has a wrap around it. -/
theorem fault?_ne_wrapped (origin : Origin) (wrap : Wrap) (inner : Fault) :
    origin.fault? ≠ some (.wrapped wrap inner) := by
  cases origin with
  | resolution args =>
    change faultOf (resolve args) ≠ _
    cases resolve args with
    | ok config => simp [faultOf]
    | error refusal => cases refusal <;> simp [faultOf, Refusal.fault]
  | _ => simp [fault?]

theorem kind?_classify_eq_some_iff (origin : Origin) (kind : Int) :
    (classify origin.fault?).kind? = some kind ↔
      ∃ found, origin.fault? = some (.diagnostic found) ∧ found.kind = kind := by
  cases hfault : origin.fault? with
  | none => simp [classify]
  | some fault =>
    cases fault with
    | wrapped wrap inner => exact absurd hfault (origin.fault?_ne_wrapped wrap inner)
    | _ => simp [classify, Fault.kind?, Fault.cause]

theorem isHelp_classify_iff (origin : Origin) :
    (classify origin.fault?).isHelp = true ↔ origin.fault? = some .help := by
  cases hfault : origin.fault? with
  | none => simp [classify]
  | some fault =>
    cases fault with
    | wrapped wrap inner => exact absurd hfault (origin.fault?_ne_wrapped wrap inner)
    | _ => simp [classify, Fault.isHelp]

/-- The kind of an origin is seen behind any wraps but enclosures. -/
theorem kind?_wrapAll_eq_some_iff (origin : Origin) (wraps : List Wrap) (kind : Int) :
    (classify (wrapAll origin.fault? wraps)).kind? = some kind ↔
      (∃ found, origin.fault? = some (.diagnostic found) ∧ found.kind = kind) ∧
        ∀ wrap ∈ wraps, ∀ note, wrap ≠ .enclosure note := by
  have hclear : wraps.all Wrap.isTransparent = true ↔
      ∀ wrap ∈ wraps, ∀ note, wrap ≠ .enclosure note := by
    simp only [List.all_eq_true, Wrap.isTransparent_iff]
  rw [classify_wrapAll, ← hclear, ← origin.kind?_classify_eq_some_iff,
    Option.ite_none_right_eq_some, and_comm]

/-- The request for help is seen behind any wraps. -/
theorem isHelp_wrapAll_iff (origin : Origin) (wraps : List Wrap) :
    (classify (wrapAll origin.fault? wraps)).isHelp = true ↔ origin.fault? = some .help := by
  rw [classify_wrapAll, ← origin.isHelp_classify_iff]

end Origin

-- An error that only reads like the request for help is not taken for it.
example : (classify (wrapAll (some (.foreign (utf8 "help requested"))) [.trace])).isHelp = false :=
  rfl

/-! ### The answer of the resolver -/

section Resolver

variable {args : List Bytes}

/-- The fault of an argument list is a diagnostic exactly if the list is malformed. The diagnostic
has the number of the kind, the token and the message of the failure. -/
theorem faultOf_resolve_eq_diagnostic_iff {found : Diagnostic} :
    faultOf (resolve args) = some (.diagnostic found) ↔
      ∃ failure, resolve args = .error (.malformed failure) ∧
        found.kind = Numbered.number (some failure.kind) ∧ found.token = failure.token ∧
        found.message = failure.message := by
  constructor
  · intro hfault
    cases hresolve : resolve args with
    | ok config =>
      rw [hresolve] at hfault
      cases hfault
    | error refusal =>
      rw [hresolve] at hfault
      cases refusal with
      | help => cases hfault
      | malformed failure =>
        cases hfault
        exact ⟨failure, rfl, rfl, rfl, rfl⟩
  · rintro ⟨failure, hresolve, hkind, htoken, hmessage⟩
    obtain ⟨kind, token, message⟩ := found
    subst hkind htoken hmessage
    rw [hresolve]
    rfl

/-- The fault of an argument list is the request for help exactly for the word alone. -/
theorem faultOf_resolve_eq_help_iff :
    faultOf (resolve args) = some .help ↔ args = [utf8 "help"] := by
  rw [← resolve_eq_help_iff]
  cases resolve args with
  | ok config => simp [faultOf]
  | error refusal => cases refusal <;> simp [faultOf, Refusal.fault]

/-- An argument list has no fault exactly if it is accepted. -/
theorem faultOf_resolve_eq_none_iff : faultOf (resolve args) = none ↔ Accepted args := by
  unfold Accepted
  cases resolve args <;> simp [faultOf]

/-- The diagnostics of an argument list have the kind that it is refused with. -/
theorem exists_diagnostic_iff_refusedWith {n : Int} :
    (∃ found, faultOf (resolve args) = some (.diagnostic found) ∧ found.kind = n) ↔
      ∃ kind token, RefusedWith args kind token ∧ Numbered.number (some kind) = n := by
  simp only [faultOf_resolve_eq_diagnostic_iff]
  constructor
  · rintro ⟨found, ⟨failure, hresolve, hkind, -, -⟩, rfl⟩
    exact ⟨failure.kind, failure.token, ⟨failure, hresolve, rfl, rfl⟩, hkind.symm⟩
  · rintro ⟨kind, token, ⟨failure, hresolve, rfl, rfl⟩, rfl⟩
    exact ⟨failure.diagnostic, ⟨failure, hresolve, rfl, rfl, rfl⟩, rfl⟩

end Resolver

/-- What can be told about an argument list behind any wraps. A kind is seen exactly if the list is
refused with it and no wrap is an enclosure, and the list is seen to ask for help exactly if it is
the word alone. There is no text exactly if the list is accepted, and for a malformed list it is the
message of the failure behind the notes of the wraps. -/
theorem classify_wrapAll_resolve (args : List Bytes) (wraps : List Wrap) :
    let seen := classify (wrapAll (faultOf (resolve args)) wraps)
    (∀ n, seen.kind? = some n ↔
      (∃ kind token, RefusedWith args kind token ∧ Numbered.number (some kind) = n) ∧
        ∀ wrap ∈ wraps, ∀ note, wrap ≠ .enclosure note) ∧
    (seen.isHelp = true ↔ args = [utf8 "help"]) ∧
    (seen.message? = none ↔ Accepted args) ∧
    ∀ failure, resolve args = .error (.malformed failure) →
      seen.message? = some (headings wraps ++ failure.message) := by
  intro seen
  have hmessage : seen.message? =
      ((faultOf (resolve args)).map Fault.message).map (headings wraps ++ ·) :=
    congrArg Classification.message? (classify_wrapAll _ wraps)
  refine ⟨fun n ↦ ?_, ?_, ?_, fun failure hresolve ↦ ?_⟩
  · rw [← exists_diagnostic_iff_refusedWith]
    exact (Origin.resolution args).kind?_wrapAll_eq_some_iff wraps n
  · rw [← faultOf_resolve_eq_help_iff]
    exact (Origin.resolution args).isHelp_wrapAll_iff wraps
  · rw [hmessage, Option.map_eq_none_iff, Option.map_eq_none_iff, faultOf_resolve_eq_none_iff]
  · rw [hmessage, hresolve]
    rfl

end Invocation
