import Invocation.Proofs.Transcript

/-!
# What the log cannot change

The records of the log share the second stream with what a run has to report, and the setting that
selects them may be any text. `outcome` is what remains of a run when its log is taken away: how it
ends, what it prints and what it reports. Neither the setting nor the room on the second stream is
among its arguments. `run_eq_outcome` says that the log only stands around the report, so that
nothing of the outcome can depend on it.

`run_independent_of_log` states this for two runs that differ in their settings and in the room on
the second stream, and says which records stand before and behind the report.
-/

set_option autoImplicit false
set_option relaxedAutoImplicit false

namespace Invocation

open Text

/-! ### What is logged -/

theorem Level.severity_debug_lt_iff {level : Level} :
    Level.debug.severity < level.severity ↔ level ≠ .debug := by
  cases level <;> decide

/-- Assumes: a record of the lowest level. It is written only when that level is selected. -/
theorem Logger.textOf_of_debug (logger : Logger) {record : Record}
    (hlevel : record.level = .debug) :
    logger.textOf record = if logger.threshold = .debug then record.text else [] := by
  unfold textOf
  rw [hlevel]
  by_cases hdebug : logger.threshold = .debug
  · rw [if_pos hdebug, if_neg fun hlt ↦ Level.severity_debug_lt_iff.mp hlt hdebug]
  · rw [if_neg hdebug, if_pos (Level.severity_debug_lt_iff.mpr hdebug)]

/-- All that is ever written about a setting is the record that it was ignored. -/
theorem Logger.notice_eq_nil_or (setting : Bytes) :
    notice setting = [] ∨ notice setting = (ignoredSetting (trim setting)).text := by
  unfold notice
  dsimp only
  by_cases hblank : trim setting = []
  · rw [if_pos hblank]
    exact Or.inl rfl
  · rw [if_neg hblank]
    cases Level.ofName? (trim setting) with
    | some level => exact Or.inl rfl
    | none => exact Or.inr rfl

/-- What is logged after the arguments were judged. -/
def closingText (args : List Bytes) (setting : Bytes) : Bytes :=
  match resolve args with
  | .ok config => (Logger.ofSetting setting).textOf (resolvedRecord config)
  | .error _ => []

/-- What is logged first is the notice about the setting and, at the lowest level, the record of the
start. -/
theorem openingText_eq (args : List Bytes) (setting : Bytes) :
    openingText args setting = Logger.notice setting ++
      if (Logger.ofSetting setting).threshold = .debug then (startingRecord args).text else [] := by
  rw [openingText, Logger.textOf_of_debug _ rfl]

/-- What is logged last is the record of an accepted invocation, at the lowest level. -/
theorem closingText_eq (args : List Bytes) (setting : Bytes) :
    closingText args setting =
      match resolve args with
      | .ok config =>
        if (Logger.ofSetting setting).threshold = .debug then (resolvedRecord config).text else []
      | .error _ => [] := by
  unfold closingText
  cases resolve args with
  | ok config => exact Logger.textOf_of_debug _ rfl
  | error refusal => rfl

/-! ### The outcome of a run -/

/-- What a run comes to when its log is taken away. -/
structure Outcome where
  status : ExitStatus
  /-- What is written to the first stream, whether or not it fits. -/
  printed : Bytes
  /-- The diagnostic, or nothing. -/
  report : Bytes
  deriving DecidableEq, Repr

/-- The outcome of a run on arguments with limited room on the first stream. A request for help that
does not fit is reported with the complaint of that stream. -/
def outcome (args : List Bytes) (outLimit : Option Nat) (complaint : Bytes) : Outcome :=
  match resolve args with
  | .ok config => ⟨.success, config.summary ++ [newline], []⟩
  | .error (.malformed failure) =>
    ⟨.failure, [], diagnosticLine (.diagnostic failure.diagnostic)⟩
  | .error .help =>
    if overflows outLimit helpText then
      ⟨.failure, helpText, diagnosticLine (.wrapped (.context (utf8 "usage")) (.foreign complaint))⟩
    else ⟨.success, helpText, []⟩

/-- A run is its outcome with the log around the report. -/
theorem run_eq_outcome (args : List Bytes) (setting : Bytes) (outLimit errLimit : Option Nat)
    (complaint : Bytes) :
    run args setting (.limited outLimit errLimit complaint) =
      ((outcome args outLimit complaint).status,
        .filled outLimit errLimit complaint (outcome args outLimit complaint).printed
          (openingText args setting ++ (outcome args outLimit complaint).report ++
            closingText args setting)) := by
  cases hresolve : resolve args with
  | ok config =>
    rw [run_of_ok setting outLimit errLimit complaint hresolve]
    simp only [outcome, closingText, hresolve, List.append_nil]
  | error refusal =>
    cases refusal with
    | malformed failure =>
      rw [run_of_malformed setting outLimit errLimit complaint hresolve]
      simp only [outcome, closingText, hresolve, List.append_nil]
    | help =>
      rw [run_of_help setting outLimit errLimit complaint hresolve]
      simp only [outcome, closingText, hresolve, List.append_nil]
      by_cases hover : overflows outLimit helpText = true
      · rw [if_pos hover, if_pos hover]
        rfl
      · rw [if_neg hover, if_neg hover, List.append_nil]

/-- Logging never interferes with a run. Whatever the setting and the room on the second stream are,
the exit code and what the first stream holds are the same. What the second stream holds without a
limit is one report, which does not depend on the setting, behind the notice about the setting and
the record of the start and before the record of an accepted invocation; these two records are there
exactly when the lowest level is selected. -/
theorem run_independent_of_log (args : List Bytes) (outLimit : Option Nat) (complaint : Bytes) :
    (∀ (setting setting' : Bytes) (errLimit errLimit' : Option Nat),
      let first := run args setting (.limited outLimit errLimit complaint)
      let second := run args setting' (.limited outLimit errLimit' complaint)
      first.1.code = second.1.code ∧ first.2.out.held = second.2.out.held) ∧
    ∃ report : Bytes,
      (match resolve args with
        | .ok _ => report = []
        | .error (.malformed failure) =>
          report = utf8 "peacock: " ++ failure.message ++ [newline]
        | .error .help => report =
          if overflows outLimit helpText then utf8 "peacock: usage: " ++ complaint ++ [newline]
          else []) ∧
      ∀ setting : Bytes,
        let debugging := (Logger.ofSetting setting).threshold = .debug
        (run args setting (.limited outLimit none complaint)).2.err.held =
          (Logger.notice setting ++ if debugging then (startingRecord args).text else []) ++
            report ++
            (match resolve args with
              | .ok config => if debugging then (resolvedRecord config).text else []
              | .error _ => []) ∧
        (Logger.notice setting = [] ∨
          Logger.notice setting = (Logger.ignoredSetting (trim setting)).text) := by
  refine ⟨?_, (outcome args outLimit complaint).report, ?_, ?_⟩
  · intro setting setting' errLimit errLimit' first second
    have hfirst : first = _ := run_eq_outcome args setting outLimit errLimit complaint
    have hsecond : second = _ := run_eq_outcome args setting' outLimit errLimit' complaint
    rw [hfirst, hsecond]
    exact ⟨rfl, rfl⟩
  · unfold outcome
    cases resolve args with
    | ok config => rfl
    | error refusal =>
      cases refusal with
      | malformed failure => rfl
      | help =>
        dsimp only
        split <;> rfl
  · intro setting debugging
    refine ⟨?_, Logger.notice_eq_nil_or setting⟩
    rw [run_eq_outcome, ← openingText_eq, ← closingText_eq]
    rfl

end Invocation
