import Invocation.Proofs.Refusal
import Invocation.Run

/-!
# What a run writes

A run writes several texts to each of its two streams, and a stream that is full keeps only the
beginning of them. What a stream holds depends on the texts only through their concatenation:
`Sink.filled` is a stream to which a text was written in any number of pieces, and one more write
appends to that text (`Sink.write_filled`), whether or not it fits.

So a run on limited streams is told by two texts, one for each stream. `run_of_ok`,
`run_of_malformed` and `run_of_help` give them for the three answers of the resolver, and
`exists_transcript` for any argument list. `run_limited` compares a run on limited streams with the
run on streams that accept everything.
-/

set_option autoImplicit false
set_option relaxedAutoImplicit false

namespace Invocation

open Text

/-! ### Streams that were written to -/

/-- What a stream with a limit keeps of all that is written to it. -/
def kept (limit : Option Nat) (text : Bytes) : Bytes :=
  match limit with
  | none => text
  | some limit => text.take limit

/-- Whether a text is longer than a limit allows. -/
def overflows (limit : Option Nat) (text : Bytes) : Bool :=
  limit.any (· < text.length)

namespace Sink

/-- A stream to which a text was written, in one piece or in several. -/
def filled (limit : Option Nat) (complaint text : Bytes) : Sink :=
  ⟨limit, complaint, kept limit text⟩

theorem empty_eq_filled (limit : Option Nat) (complaint : Bytes) :
    empty limit complaint = filled limit complaint [] := by
  cases limit with
  | none => rfl
  | some limit => simp [empty, filled, kept]

/-- A write appends to the text that was written before, whether or not it fits. -/
theorem write_filled (limit : Option Nat) (complaint text more : Bytes) :
    (filled limit complaint text).write more = filled limit complaint (text ++ more) := by
  cases limit with
  | none => rfl
  | some limit =>
    have hroom : limit - (text.take limit).length = limit - text.length := by
      rw [List.length_take]
      omega
    simp only [filled, write, accepted, kept, hroom, List.take_append]

/-- There is room for one more text exactly when all that was written does not overflow with it.
Assumes: the text is not empty. -/
theorem fits_filled (limit : Option Nat) (complaint text : Bytes) {more : Bytes}
    (hmore : more ≠ []) :
    (filled limit complaint text).fits more = !overflows limit (text ++ more) := by
  cases limit with
  | none => rfl
  | some limit =>
    have hpositive : 0 < more.length := List.length_pos_iff.mpr hmore
    have hroom : more.length ≤ limit - (text.take limit).length ↔
        ¬ limit < (text ++ more).length := by
      rw [List.length_take, List.length_append]
      omega
    change decide (more.length ≤ limit - (text.take limit).length) =
      !decide (limit < (text ++ more).length)
    rw [decide_eq_decide.mpr hroom, decide_not]

/-- A write fails exactly when all that was written overflows with it. Assumes: the write is not
empty. -/
theorem fault?_filled (limit : Option Nat) (complaint text : Bytes) {more : Bytes}
    (hmore : more ≠ []) :
    (filled limit complaint text).fault? more =
      if overflows limit (text ++ more) then some (.foreign complaint) else none := by
  rw [fault?, fits_filled limit complaint text hmore]
  cases overflows limit (text ++ more) <;> rfl

end Sink

namespace Streams

/-- Streams with limits and nothing written to them. -/
def limited (outLimit errLimit : Option Nat) (complaint : Bytes) : Streams :=
  ⟨.empty outLimit complaint, .empty errLimit complaint⟩

/-- Streams with limits to each of which a text was written. -/
def filled (outLimit errLimit : Option Nat) (complaint out err : Bytes) : Streams :=
  ⟨.filled outLimit complaint out, .filled errLimit complaint err⟩

variable (outLimit errLimit : Option Nat) (complaint out err text : Bytes)

theorem limited_eq_filled :
    limited outLimit errLimit complaint = filled outLimit errLimit complaint [] [] := by
  simp only [limited, filled, Sink.empty_eq_filled]

theorem unlimited_eq_limited : unlimited = limited none none [] :=
  rfl

@[simp] theorem writeOut_filled :
    (filled outLimit errLimit complaint out err).writeOut text =
      filled outLimit errLimit complaint (out ++ text) err := by
  simp only [writeOut, filled, Sink.write_filled]

@[simp] theorem writeErr_filled :
    (filled outLimit errLimit complaint out err).writeErr text =
      filled outLimit errLimit complaint out (err ++ text) := by
  simp only [writeErr, filled, Sink.write_filled]

end Streams

/-! ### The three answers -/

/-- What is logged before the arguments are judged. -/
def openingText (args : List Bytes) (setting : Bytes) : Bytes :=
  Logger.notice setting ++ (Logger.ofSetting setting).textOf (startingRecord args)

/-- What the request for help prints. -/
def helpText : Bytes :=
  Program.banner ++ [newline] ++ Usage.text Program.name

section Answers

variable {args : List Bytes} (setting : Bytes) (outLimit errLimit : Option Nat) (complaint : Bytes)

/-- An accepted invocation is logged and then summed up. -/
theorem run_of_ok {config : Config} (hresolve : resolve args = .ok config) :
    run args setting (.limited outLimit errLimit complaint) =
      (.success, .filled outLimit errLimit complaint (config.summary ++ [newline])
        (openingText args setting ++
          (Logger.ofSetting setting).textOf (resolvedRecord config))) := by
  simp only [run, judge, hresolve, Streams.limited_eq_filled, Streams.writeErr_filled,
    Streams.writeOut_filled, List.nil_append, openingText]

/-- A malformed invocation ends with its diagnostic and prints nothing. -/
theorem run_of_malformed {failure : Failure}
    (hresolve : resolve args = .error (.malformed failure)) :
    run args setting (.limited outLimit errLimit complaint) =
      (.failure, .filled outLimit errLimit complaint []
        (openingText args setting ++ diagnosticLine (.diagnostic failure.diagnostic))) := by
  simp only [run, judge, hresolve, Streams.limited_eq_filled, Streams.writeErr_filled,
    List.nil_append, openingText, Refusal.fault]

/-- Showing help prints the help text. Where that does not fit, the usage text in its second half
does not, and that is reported. -/
theorem showHelp_filled (err : Bytes) :
    showHelp (.filled outLimit errLimit complaint [] err) =
      if overflows outLimit helpText then
        (.stop .failure, .filled outLimit errLimit complaint helpText
          (err ++ (utf8 "peacock: usage: " ++ complaint ++ [newline])))
      else (.stop .success, .filled outLimit errLimit complaint helpText err) := by
  have husage : Usage.text Program.name ≠ [] := by decide
  have hline : diagnosticLine (.wrapped (.context (utf8 "usage")) (.foreign complaint)) =
      utf8 "peacock: usage: " ++ complaint ++ [newline] := rfl
  have hhelp : Program.banner ++ [newline] ++ Usage.text Program.name = helpText := rfl
  have hfault := Sink.fault?_filled outLimit complaint (Program.banner ++ [newline]) husage
  simp only [showHelp, Streams.writeOut_filled, List.nil_append]
  simp only [Streams.filled, Usage.write, Usage.fault?, Sink.write_filled, hfault, wrapOne, hhelp]
  by_cases hover : overflows outLimit helpText = true
  · simp only [hover, if_true, Option.map_some, hline, Streams.writeErr, Sink.write_filled]
  · simp only [hover, if_false, Option.map_none, Bool.false_eq_true]

/-- A request for help ends as showing help does. -/
theorem run_of_help (hresolve : resolve args = .error .help) :
    run args setting (.limited outLimit errLimit complaint) =
      if overflows outLimit helpText then
        (.failure, .filled outLimit errLimit complaint helpText
          (openingText args setting ++ (utf8 "peacock: usage: " ++ complaint ++ [newline])))
      else (.success, .filled outLimit errLimit complaint helpText (openingText args setting)) := by
  simp only [run, judge, hresolve, Streams.limited_eq_filled, Streams.writeErr_filled,
    List.nil_append, showHelp_filled, openingText]
  by_cases hover : overflows outLimit helpText = true
  · simp only [hover, if_true]
  · simp only [hover, if_false, Bool.false_eq_true]

end Answers

/-! ### Limits -/

theorem overflows_none (text : Bytes) : overflows none text = false :=
  rfl

/-- One exit status and two texts tell a run on streams with any limits. The one run that notices a
limit is a request for help whose text does not fit. -/
theorem exists_transcript (args : List Bytes) (setting : Bytes) :
    ∃ exit out err, (args = [utf8 "help"] → exit = .success ∧ out = helpText) ∧
      ∀ outLimit errLimit complaint,
        run args setting (.limited outLimit errLimit complaint) =
          if args = [utf8 "help"] ∧ overflows outLimit out = true then
            (.failure, .filled outLimit errLimit complaint out
              (err ++ (utf8 "peacock: usage: " ++ complaint ++ [newline])))
          else (exit, .filled outLimit errLimit complaint out err) := by
  cases hresolve : resolve args with
  | ok config =>
    have hargs : args ≠ [utf8 "help"] := fun h ↦
      nomatch hresolve.symm.trans (resolve_eq_help_iff.mpr h)
    refine ⟨.success, config.summary ++ [newline], openingText args setting ++
      (Logger.ofSetting setting).textOf (resolvedRecord config), fun h ↦ absurd h hargs, ?_⟩
    intro outLimit errLimit complaint
    rw [if_neg fun h ↦ hargs h.1, run_of_ok setting outLimit errLimit complaint hresolve]
  | error refusal =>
    cases refusal with
    | malformed failure =>
      have hargs : args ≠ [utf8 "help"] := fun h ↦
        nomatch hresolve.symm.trans (resolve_eq_help_iff.mpr h)
      refine ⟨.failure, [], openingText args setting ++
        diagnosticLine (.diagnostic failure.diagnostic), fun h ↦ absurd h hargs, ?_⟩
      intro outLimit errLimit complaint
      rw [if_neg fun h ↦ hargs h.1, run_of_malformed setting outLimit errLimit complaint hresolve]
    | help =>
      have hargs : args = [utf8 "help"] := resolve_eq_help_iff.mp hresolve
      refine ⟨.success, helpText, openingText args setting, fun _ ↦ ⟨rfl, rfl⟩, ?_⟩
      intro outLimit errLimit complaint
      rw [run_of_help setting outLimit errLimit complaint hresolve]
      simp only [hargs, true_and]

/-- A run on limited streams differs from the run on streams that accept everything in nothing but
this: each stream keeps the beginning of what the free run writes to it, and a request for help
whose text does not fit fails and says so at the end of the second stream. -/
theorem run_limited (args : List Bytes) (setting complaint : Bytes)
    (outLimit errLimit : Option Nat) :
    let free := run args setting .unlimited
    let limited := run args setting (.limited outLimit errLimit complaint)
    let cut := args = [utf8 "help"] ∧ overflows outLimit free.2.out.held = true
    limited.2.out.held = kept outLimit free.2.out.held ∧
    limited.1.code = (if cut then 1 else free.1.code) ∧
    limited.2.err.held = kept errLimit (free.2.err.held ++
      if cut then utf8 "peacock: usage: " ++ complaint ++ [newline] else []) ∧
    (run [utf8 "help"] setting .unlimited).1.code = 0 ∧
    (run [utf8 "help"] setting .unlimited).2.out.held =
      Program.banner ++ [newline] ++ Usage.text Program.name := by
  intro free limited cut
  have hshown : (run [utf8 "help"] setting .unlimited).1.code = 0 ∧
      (run [utf8 "help"] setting .unlimited).2.out.held = helpText := by
    obtain ⟨exit, out, err, htext, hrun⟩ := exists_transcript [utf8 "help"] setting
    obtain ⟨rfl, rfl⟩ := htext rfl
    rw [Streams.unlimited_eq_limited, hrun, overflows_none, if_neg fun h ↦ nomatch h.2]
    exact ⟨rfl, rfl⟩
  obtain ⟨exit, out, err, -, hrun⟩ := exists_transcript args setting
  -- Without limits nothing overflows, so the free run is the one that the texts describe.
  have hfree : free = (exit, .filled none none [] out err) := by
    change run args setting (.limited none none []) = _
    rw [hrun, overflows_none, if_neg fun h ↦ nomatch h.2]
  have hlimited : limited = _ := hrun outLimit errLimit complaint
  have hout : free.2.out.held = out := congrArg (fun result ↦ result.2.out.held) hfree
  have hcut : cut ↔ args = [utf8 "help"] ∧ overflows outLimit out = true := by
    rw [← hout]
  by_cases hnoticed : cut
  · rw [if_pos (hcut.mp hnoticed)] at hlimited
    rw [if_pos hnoticed, if_pos hnoticed, hfree, hlimited]
    exact ⟨rfl, rfl, rfl, hshown⟩
  · rw [if_neg (fun h ↦ hnoticed (hcut.mpr h))] at hlimited
    rw [if_neg hnoticed, if_neg hnoticed, hfree, hlimited, List.append_nil]
    exact ⟨rfl, rfl, rfl, hshown⟩

end Invocation
