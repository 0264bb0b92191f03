import Invocation.Proofs.Layout
import Invocation.Proofs.Transcript

/-!
# The integrity of the second stream

Log records and the diagnostic of a malformed invocation share the second stream, and at the lowest
log level the records show arguments as the user gave them. A reader of the stream tells the
diagnostic by its beginning. `run_err_lines` says that he cannot be deceived: no line holds a
control character, and the only line that begins like a diagnostic is the one that is, at the end of
the stream and with nothing but the message of the failure on it.

The records keep clear of it by being quiet and by ending their last line (`IsLogText`), so the
diagnostic starts a line of its own.
-/

set_option autoImplicit false
set_option relaxedAutoImplicit false

namespace Invocation

open Text

/-! ### What the logger writes -/

/-- Quiet text of whole lines, which is what the log consists of. -/
structure IsLogText (text : Bytes) : Prop where
  quiet : IsQuiet text
  whole : IsWhole text

theorem isLogText_nil : IsLogText [] :=
  ⟨isQuiet_nil, Or.inl rfl⟩

theorem IsLogText.append {first second : Bytes} (hfirst : IsLogText first)
    (hsecond : IsLogText second) : IsLogText (first ++ second) :=
  ⟨hfirst.quiet.append hsecond.quiet, hfirst.whole.append hsecond.whole⟩

/-- What a logger writes for a record is log text. Assumes: the message and the keys of the record
are clean. -/
theorem Logger.isLogText_textOf (logger : Logger) {record : Record}
    (hmessage : IsClean record.message) (hkeys : IsClean (record.fields.flatMap Field.key)) :
    IsLogText (logger.textOf record) := by
  unfold textOf
  split
  · exact isLogText_nil
  · exact ⟨record.isQuiet_text hmessage hkeys, record.isWhole_text⟩

/-- The notice about a setting is log text, whatever the setting is. -/
theorem Logger.isLogText_notice (setting : Bytes) : IsLogText (notice setting) := by
  unfold notice
  dsimp only
  split
  · exact isLogText_nil
  · split
    · exact isLogText_nil
    · exact isLogText_textOf fallback (by decide : IsClean (utf8 "ignoring log level"))
        (by decide : IsClean [utf8 "env", utf8 "value"].flatten)

/-- All that is logged before the arguments are judged is log text, whatever they are. -/
theorem isLogText_openingText (args : List Bytes) (setting : Bytes) :
    IsLogText (openingText args setting) :=
  (Logger.isLogText_notice setting).append
    (Logger.isLogText_textOf _ (by decide : IsClean (utf8 "starting"))
      (by decide : IsClean [utf8 "version", utf8 "args"].flatten))

/-- The record of an accepted invocation is log text, whatever its paths are. -/
theorem isLogText_resolvedRecord (logger : Logger) (config : Config) :
    IsLogText (logger.textOf (resolvedRecord config)) :=
  logger.isLogText_textOf (by decide : IsClean (utf8 "resolved invocation"))
    (by decide : IsClean [utf8 "mode", utf8 "stage", utf8 "input", utf8 "output"].flatten)

/-! ### Diagnostics among the lines -/

/-- The lines of a text that begin like a diagnostic. -/
def diagnosticLines (text : Bytes) : List Bytes :=
  (lines text).filter fun line ↦ utf8 "peacock: " <+: line

/-- No quiet line begins like a diagnostic. -/
theorem filter_diagnostic_eq_nil {list : List Bytes} (hquiet : ∀ line ∈ list, IsQuietLine line) :
    list.filter (fun line ↦ utf8 "peacock: " <+: line) = [] := by
  refine List.filter_eq_nil_iff.mpr fun line hline ↦ ?_
  rw [decide_eq_true_eq]
  rintro ⟨rest, rfl⟩
  exact (hquiet _ hline).2 rfl

/-- The lines of log text with a clean line behind it. -/
theorem IsLogText.lines_append_line {text line : Bytes} (htext : IsLogText text)
    (hline : IsClean line) :
    ∃ before, lines (text ++ (line ++ [newline])) = before ++ [line, []] ∧
      ∀ other ∈ before, IsQuietLine other := by
  obtain ⟨before, hlines, happend⟩ := htext.whole.exists_lines
  have hquiet : ∀ other ∈ before ++ [[]], IsQuietLine other := hlines ▸ htext.quiet
  refine ⟨before, ?_, (List.forall_mem_append.mp hquiet).1⟩
  rw [happend, lines_append_newline, lines_of_isClean hline]
  rfl

/-- The only diagnostic in log text with a diagnostic behind it is that one. -/
theorem IsLogText.diagnosticLines_append {text message : Bytes} (htext : IsLogText text)
    (hmessage : IsClean message) :
    let held := text ++ (utf8 "peacock: " ++ message ++ [newline])
    diagnosticLines held = [utf8 "peacock: " ++ message] ∧
      (∀ line ∈ lines held, IsClean line) ∧
        ∃ before, lines held = before ++ [utf8 "peacock: " ++ message, []] := by
  intro held
  have hline : IsClean (utf8 "peacock: " ++ message) := IsClean.append (by decide) hmessage
  obtain ⟨before, hlines, hquiet⟩ := htext.lines_append_line hline
  refine ⟨?_, ?_, before, hlines⟩
  · rw [diagnosticLines, hlines, List.filter_append, filter_diagnostic_eq_nil hquiet,
      List.filter_cons_of_pos (by simp only [List.prefix_append, decide_true])]
    rfl
  · rw [hlines]
    refine List.forall_mem_append.mpr ⟨fun line hmem ↦ (hquiet line hmem).1, ?_⟩
    exact List.forall_mem_cons.mpr ⟨hline, List.forall_mem_singleton.mpr isClean_nil⟩

/-- No argument and no setting can forge, hide or split a diagnostic: every line of the second
stream is free of control characters, and the lines that begin like a diagnostic are the one line of
a malformed invocation, which stands last, and none at all for any other invocation. -/
theorem run_err_lines (args : List Bytes) (setting : Bytes) :
    let held := (run args setting .unlimited).2.err.held
    (∀ line ∈ lines held, ∀ byte ∈ line, isControl byte = false) ∧
    match resolve args with
    | .ok _ => diagnosticLines held = []
    | .error .help => diagnosticLines held = []
    | .error (.malformed failure) =>
      diagnosticLines held = [utf8 "peacock: " ++ failure.message] ∧
        ∃ before, lines held = before ++ [utf8 "peacock: " ++ failure.message, []] := by
  intro held
  have hopening := isLogText_openingText args setting
  cases hresolve : resolve args with
  | ok config =>
    have hlog := hopening.append (isLogText_resolvedRecord (Logger.ofSetting setting) config)
    have hheld : held = openingText args setting ++
        (Logger.ofSetting setting).textOf (resolvedRecord config) := by
      change (run args setting (.limited none none [])).2.err.held = _
      rw [run_of_ok setting none none [] hresolve]
      rfl
    rw [hheld]
    exact ⟨fun line hline ↦ (hlog.quiet line hline).1, filter_diagnostic_eq_nil hlog.quiet⟩
  | error refusal =>
    cases refusal with
    | help =>
      have hheld : held = openingText args setting := by
        change (run args setting (.limited none none [])).2.err.held = _
        rw [run_of_help setting none none [] hresolve]
        rfl
      rw [hheld]
      exact ⟨fun line hline ↦ (hopening.quiet line hline).1,
        filter_diagnostic_eq_nil hopening.quiet⟩
    | malformed failure =>
      have hmessage := failure.isPrintableText_message.isClean
      obtain ⟨honly, hclean, hlast⟩ := hopening.diagnosticLines_append hmessage
      have hheld : held = openingText args setting ++
          (utf8 "peacock: " ++ failure.message ++ [newline]) := by
        change (run args setting (.limited none none [])).2.err.held = _
        rw [run_of_malformed setting none none [] hresolve]
        rfl
      rw [hheld]
      exact ⟨hclean, honly, hlast⟩

end Invocation
