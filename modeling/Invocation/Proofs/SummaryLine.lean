import Invocation.Proofs.CanonicalLine
import Invocation.Proofs.Layout
import Invocation.Proofs.Transcript

/-!
# What a summary tells

A summary shows the mode, the input path and the output path of an invocation one behind the other,
and it shows the paths as they are. `Config.ofSummary?` reads it back. The label of the mode holds
no space, so it ends at the first one and the mode is always found (`ofLabel?_labelIn`). The paths
are found if the input path holds no arrow, that is, the first three bytes of what stands between
the paths (`ofSummary?_summary`). It is not enough that the input path does not hold all four of
them, because its end may make another separator with the beginning of the one that follows. The
output path may hold anything. `summary_read_back` says what follows for two summaries.

The paths may also hold newlines, and nothing is done about these. So what an accepted invocation
prints is one line exactly when neither path holds a newline (`run_out_line_iff`), and a reader who
takes it line by line may be shown a summary that the program never made (`run_out_forged`).
-/

set_option autoImplicit false
set_option relaxedAutoImplicit false

namespace Invocation

open Text

/-! ### Reading a summary -/

/-- The bytes with which the separator of the two paths begins. -/
def arrow : Bytes :=
  utf8 " ->"

/-- What stands in front of the first arrow of a text, or all of it if there is none. -/
def beforeArrow : Bytes → Bytes
  | [] => []
  | byte :: rest => if arrow <+: byte :: rest then [] else byte :: beforeArrow rest

/-- What a line shows in front of its first space. -/
def labelIn (line : Bytes) : Bytes :=
  line.takeWhile (· ≠ ascii ' ')

/-- What a line shows behind its first space. -/
def pathsIn (line : Bytes) : Bytes :=
  (line.dropWhile (· ≠ ascii ' ')).drop 1

/-- The mode with a label. -/
def Mode.ofLabel? (text : Bytes) : Option Mode :=
  (Numbered.order : List Mode).find? (·.label = text)

/-- The configuration that a summary is about. -/
def Config.ofSummary? (line : Bytes) : Option Config :=
  let input := beforeArrow (pathsIn line)
  (Mode.ofLabel? (labelIn line)).map fun mode ↦
    ⟨mode, input, (pathsIn line).drop (input.length + (utf8 " -> ").length)⟩

/-! ### The mode -/

/-- A label holds neither of the bytes at which a summary is cut. -/
theorem Mode.not_mem_label (mode : Mode) : ascii ' ' ∉ mode.label ∧ newline ∉ mode.label := by
  rcases mode with _ | _ | target
  · decide
  · decide
  · cases target <;> decide

@[simp] theorem Mode.ofLabel?_label (mode : Mode) : ofLabel? mode.label = some mode := by
  rcases mode with _ | _ | target
  · decide
  · decide
  · cases target <;> decide

theorem summary_eq_append (label input output : Bytes) :
    summary label input output = label ++ ascii ' ' :: (input ++ (utf8 " -> " ++ output)) := by
  have hspace : utf8 " " = [ascii ' '] := rfl
  simp only [summary, hspace, List.append_assoc, List.cons_append, List.nil_append]

/-- Assumes: a label without a space. A summary is cut behind it at its first space. -/
theorem cut_summary {label : Bytes} (hlabel : ascii ' ' ∉ label) (input output : Bytes) :
    labelIn (summary label input output) = label ∧
      pathsIn (summary label input output) = input ++ (utf8 " -> " ++ output) := by
  have hpass : ∀ byte ∈ label, decide (byte ≠ ascii ' ') = true := by
    intro byte hmem
    rw [decide_eq_true_eq]
    rintro rfl
    exact hlabel hmem
  rw [labelIn, pathsIn, summary_eq_append]
  constructor
  · rw [List.takeWhile_append_of_pos hpass, List.takeWhile_cons_of_neg (by decide),
      List.append_nil]
  · rw [List.dropWhile_append_of_pos hpass, List.dropWhile_cons_of_neg (by decide)]
    rfl

theorem Config.cut_summary (config : Config) :
    labelIn config.summary = config.mode.label ∧
      pathsIn config.summary = config.input ++ (utf8 " -> " ++ config.output) :=
  Invocation.cut_summary config.mode.not_mem_label.1 config.input config.output

/-- The mode is found in every summary. -/
theorem Config.ofLabel?_labelIn (config : Config) :
    Mode.ofLabel? (labelIn config.summary) = some config.mode := by
  rw [config.cut_summary.1, Mode.ofLabel?_label]

/-! ### The paths -/

/-- An arrow does not begin inside a text and end in the separator behind it: what such an arrow
would need to stand there is not what the separator begins with. -/
theorem arrow_starts_within {byte : UInt8} {front rest : Bytes}
    (hstarts : arrow <+: byte :: (front ++ (utf8 " -> " ++ rest))) : arrow <+: byte :: front := by
  have harrow : arrow = [0x20, 0x2D, 0x3E] := by decide
  have hseparator : utf8 " -> " = [0x20, 0x2D, 0x3E, 0x20] := by decide
  rw [harrow, hseparator] at hstarts
  rw [harrow]
  rcases front with _ | ⟨second, _ | ⟨third, others⟩⟩
  · simp [List.cons_prefix_cons] at hstarts
  · simp [List.cons_prefix_cons] at hstarts
  · simpa [List.cons_prefix_cons] using hstarts

/-- Assumes: a text without an arrow. It is what stands in front of the first arrow when the
separator is put behind it. -/
theorem beforeArrow_append {front : Bytes} (harrow : ¬ arrow <:+: front) (rest : Bytes) :
    beforeArrow (front ++ (utf8 " -> " ++ rest)) = front := by
  induction front with
  | nil =>
    have hseparator : utf8 " -> " = arrow ++ [ascii ' '] := by decide
    rw [hseparator]
    exact if_pos (List.prefix_append arrow (ascii ' ' :: rest))
  | cons byte front ih =>
    have hstarts : ¬ arrow <+: byte :: front := fun hstarts ↦ harrow hstarts.isInfix
    have hinside : ¬ arrow <:+: front := fun hinside ↦ harrow (List.infix_cons hinside)
    rw [List.cons_append, beforeArrow, if_neg (mt arrow_starts_within hstarts), ih hinside]

/-- Assumes: a configuration whose input path holds no arrow. It is read back from its summary. -/
theorem Config.ofSummary?_summary {config : Config} (harrow : ¬ arrow <:+: config.input) :
    Config.ofSummary? config.summary = some config := by
  obtain ⟨-, hpaths⟩ := config.cut_summary
  rw [Config.ofSummary?, config.ofLabel?_labelIn, hpaths, beforeArrow_append harrow]
  simp only [Option.map_some, ← List.drop_drop, List.drop_left]

/-- Without the condition two configurations may have the same summary, although no input path holds
the whole separator. -/
example : Config.summary ⟨.lex, utf8 "a", utf8 "-> b"⟩ =
    Config.summary ⟨.lex, utf8 "a ->", utf8 "b"⟩ :=
  rfl

/-! ### Summaries by number -/

/-- The summary of a configuration, as far as the tables know its mode. -/
def PlainConfig.summary (plain : PlainConfig) : Bytes :=
  Invocation.summary (Mode.labelAt plain.mode) plain.input plain.output

@[simp] theorem Mode.labelAt_number (mode : Mode) :
    labelAt (Numbered.number (some mode)) = mode.label := by
  rw [labelAt, Numbered.ofNumber?_number]
  rfl

theorem Config.plain_summary (config : Config) : config.plain.summary = config.summary := by
  rw [PlainConfig.summary, Config.plain, Mode.labelAt_number]
  rfl

/-- Assumes: a configuration with the number of a mode. It is the plain form of one with that
mode. -/
theorem PlainConfig.exists_config {plain : PlainConfig}
    (hnumber : Mode.isNumber plain.mode = true) : ∃ config : Config, config.plain = plain := by
  obtain ⟨mode, hmode⟩ := Mode.isNumber_iff.mp hnumber
  exact ⟨⟨mode, plain.input, plain.output⟩, by rw [Config.plain, ← hmode]⟩

/-- An accepted invocation prints its summary and nothing else. -/
theorem run_out_of_ok {args : List Bytes} (setting : Bytes) {config : Config}
    (hresolve : resolve args = .ok config) :
    (run args setting .unlimited).2.out.held = config.summary ++ [newline] := by
  rw [Streams.unlimited_eq_limited, run_of_ok setting none none [] hresolve]
  rfl

/-- Two configurations with the number of a mode and the same summary have the same mode, and if
moreover no input path holds an arrow, they are the same. So under that condition what an accepted
invocation prints tells its whole configuration, whatever its output path holds. -/
theorem summary_read_back (first second : PlainConfig) :
    (Mode.isNumber first.mode = true → Mode.isNumber second.mode = true →
      first.summary = second.summary →
        first.mode = second.mode ∧
        (¬ utf8 " ->" <:+: first.input → ¬ utf8 " ->" <:+: second.input → first = second)) ∧
    ∀ (args args' : List Bytes) (setting setting' : Bytes),
      ResolvesTo args first → ResolvesTo args' second →
      ¬ utf8 " ->" <:+: first.input → ¬ utf8 " ->" <:+: second.input →
      (run args setting .unlimited).2.out.held = (run args' setting' .unlimited).2.out.held →
        first = second := by
  have hwhole (config config' : Config) (hfirst : ¬ arrow <:+: config.input)
      (hsecond : ¬ arrow <:+: config'.input) (hsummary : config.summary = config'.summary) :
      config = config' := by
    have hread := Config.ofSummary?_summary hfirst
    rw [hsummary, Config.ofSummary?_summary hsecond] at hread
    exact (Option.some.inj hread).symm
  constructor
  · intro hfirst hsecond hsummary
    obtain ⟨config, rfl⟩ := PlainConfig.exists_config hfirst
    obtain ⟨config', rfl⟩ := PlainConfig.exists_config hsecond
    rw [Config.plain_summary, Config.plain_summary] at hsummary
    constructor
    · have hmode := config.ofLabel?_labelIn
      rw [hsummary, config'.ofLabel?_labelIn] at hmode
      rw [Config.plain, Config.plain, Option.some.inj hmode]
    · intro hinput hinput'
      rw [hwhole config config' hinput hinput' hsummary]
  · rintro args args' setting setting' ⟨config, hresolve, rfl⟩ ⟨config', hresolve', rfl⟩ hinput
      hinput' hprinted
    rw [run_out_of_ok setting hresolve, run_out_of_ok setting' hresolve'] at hprinted
    rw [hwhole config config' hinput hinput' (List.append_cancel_right hprinted)]

/-- Two configurations that share a summary share the mode and no path. Two lists that print the
same line, whose output path holds a separator, stand for the same configuration. -/
theorem summary_read_back_separator :
    let first : PlainConfig := ⟨3, utf8 "a", utf8 "-> b"⟩
    let second : PlainConfig := ⟨3, utf8 "a ->", utf8 "b"⟩
    let third : PlainConfig := ⟨1, utf8 "a-> ", utf8 " -> b"⟩
    (first.summary = second.summary ∧ first.mode = second.mode) ∧
      ResolvesTo [utf8 "lex", utf8 "a-> ", utf8 "--out", utf8 " -> b"] third ∧
      ∀ other args setting, ResolvesTo args other → ¬ utf8 " ->" <:+: other.input →
        (run args setting .unlimited).2.out.held = utf8 "lex a->  ->  -> b\n" → third = other := by
  intro first second third
  have hsummary : first.summary = second.summary := rfl
  have hmode := ((summary_read_back first second).1 (by decide) (by decide) hsummary).1
  have hresolves : ResolvesTo [utf8 "lex", utf8 "a-> ", utf8 "--out", utf8 " -> b"] third :=
    ⟨_, rfl, rfl⟩
  refine ⟨⟨hsummary, hmode⟩, hresolves, fun other args setting hother hinput hprinted ↦ ?_⟩
  exact (summary_read_back third other).2 _ args [] setting hresolves hother (by decide) hinput
    hprinted.symm

/-! ### Lines -/

/-- There is one line more than there are newlines. -/
theorem length_lines (text : Bytes) : (lines text).length = text.count newline + 1 := by
  induction text with
  | nil => rfl
  | cons byte rest ih =>
    by_cases hnewline : byte = newline
    · rw [lines, if_pos hnewline, hnewline, List.count_cons_self, List.length_cons, ih]
    · obtain ⟨line, others, hlines⟩ := List.exists_cons_of_ne_nil (lines_ne_nil rest)
      rw [lines, if_neg hnewline, List.count_cons_of_ne hnewline, ← ih, hlines]
      rfl

/-- Whether a text is one line: it holds one newline, at its end. -/
def IsOneLine (text : Bytes) : Prop :=
  text.count newline = 1 ∧ text.getLast? = some newline

instance (text : Bytes) : Decidable (IsOneLine text) :=
  inferInstanceAs (Decidable (_ ∧ _))

/-- The newlines of a summary are those of its paths. -/
theorem Config.count_newline_summary (config : Config) :
    config.summary.count newline = config.input.count newline + config.output.count newline := by
  have hlabel : config.mode.label.count newline = 0 :=
    List.count_eq_zero.mpr config.mode.not_mem_label.2
  have hspace : (utf8 " ").count newline = 0 := by decide
  have hseparator : (utf8 " -> ").count newline = 0 := by decide
  simp only [Config.summary, Invocation.summary, List.count_append, hlabel, hspace, hseparator]
  omega

/-- Assumes: an accepted list. What it prints is its summary with a newline at the end. It holds the
newlines of both paths besides, so it is one line, and the lines that a reader sees are the summary
alone, exactly when neither path holds a newline. -/
theorem run_out_line_iff (args : List Bytes) (setting : Bytes) (config : Config)
    (hresolve : resolve args = .ok config) :
    let printed := (run args setting .unlimited).2.out.held
    printed = config.mode.label ++ utf8 " " ++ config.input ++ utf8 " -> " ++ config.output ++
        [newline] ∧
      printed.count newline = config.input.count newline + config.output.count newline + 1 ∧
      (IsOneLine printed ↔ newline ∉ config.input ∧ newline ∉ config.output) ∧
      (lines printed = [config.summary, []] ↔
        newline ∉ config.input ∧ newline ∉ config.output) := by
  intro printed
  have hprinted : printed = config.summary ++ [newline] := run_out_of_ok setting hresolve
  have hcount : printed.count newline =
      config.input.count newline + config.output.count newline + 1 := by
    rw [hprinted, List.count_append, config.count_newline_summary]
    rfl
  have hfree : printed.count newline = 1 ↔ newline ∉ config.input ∧ newline ∉ config.output := by
    rw [hcount, ← List.count_eq_zero, ← List.count_eq_zero]
    omega
  refine ⟨hprinted, hcount, ?_, ?_, fun hpaths ↦ ?_⟩
  · rw [IsOneLine, hfree, hprinted, List.getLast?_concat]
    exact and_iff_left rfl
  · -- Two lines leave room for one newline, and that is the one behind the summary.
    intro hlines
    have hlength := length_lines printed
    rw [hlines] at hlength
    exact hfree.mp (Nat.succ.inj hlength).symm
  · have hsummary : newline ∉ config.summary := by
      rw [← List.count_eq_zero, config.count_newline_summary, List.count_eq_zero.mpr hpaths.1,
        List.count_eq_zero.mpr hpaths.2]
    rw [hprinted, lines_append_newline, lines_of_newline_not_mem hsummary]
    rfl

/-- The condition looks at newlines only: a path may hold spaces, separators and other control
characters. -/
theorem run_out_line_iff_separator :
    let args := [utf8 "com", utf8 "a -> b\t\r", utf8 "--out", utf8 "c d"]
    resolve args = .ok ⟨.compile .wasm32, utf8 "a -> b\t\r", utf8 "c d"⟩ ∧
      lines (run args (utf8 "debug") .unlimited).2.out.held =
        [utf8 "com/wasm32 a -> b\t\r -> c d", []] := by
  intro args
  have hresolve : resolve args = .ok ⟨.compile .wasm32, utf8 "a -> b\t\r", utf8 "c d"⟩ := rfl
  have hlines := (run_out_line_iff args (utf8 "debug") _ hresolve).2.2.2
  exact ⟨hresolve, hlines.mpr ⟨by decide, by decide⟩⟩

/-- One accepted invocation may print two lines, each of which reads as a summary. -/
theorem run_out_forged :
    let args := [utf8 "lex", utf8 "a -> b\nparse c"]
    let printed := (run args [] .unlimited).2.out.held
    resolve args = .ok ⟨.lex, utf8 "a -> b\nparse c", utf8 "output.out"⟩ ∧
      printed = utf8 "lex a -> b\nparse c -> output.out\n" ∧ ¬ IsOneLine printed ∧
      lines printed = [Config.summary ⟨.lex, utf8 "a", utf8 "b"⟩,
        Config.summary ⟨.parse, utf8 "c", utf8 "output.out"⟩, []] := by
  intro args printed
  have hresolve : resolve args = .ok ⟨.lex, utf8 "a -> b\nparse c", utf8 "output.out"⟩ := rfl
  have hprinted : printed = utf8 "lex a -> b\nparse c -> output.out\n" :=
    run_out_of_ok [] hresolve
  refine ⟨hresolve, hprinted, ?_, ?_⟩
  · rw [hprinted]
    decide
  · rw [hprinted]
    rfl

end Invocation
