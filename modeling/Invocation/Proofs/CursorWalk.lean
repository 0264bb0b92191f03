import Invocation.Proofs.Refusal
import Invocation.Resolve.Cursor

/-!
# The walk over the arguments finds what the reader finds

A walk goes by position: it tests a position against the length of the list, moves the cursor in the
middle of a turn and again at its end, and looks for a value one position ahead. The reader takes
the list apart instead and has no positions. `visit_cases` says what one visit does, in terms of
what the reader makes of the arguments that are left (`settle`): it takes a flag and its value off
them, or it ends the walk with the failure that the reader has. It never reads behind the last
argument.

From this follows what a walk looks like after any number of turns (`OnCourse`). As long as it goes
on, the number of turns alone says where the cursor is and what was tested and read: all positions
from the first argument behind the input path up to the cursor, each once. So the cursor stands at
an even position at every test and meets the end of the list exactly, if it gets there, and there
are no more turns than pairs of arguments. `walk_resolves` says this of whole argument lists.
-/

set_option autoImplicit false
set_option relaxedAutoImplicit false

namespace Invocation

open Reading

/-! ### What is left to read -/

/-- What the arguments that are left make of the configuration built so far. -/
def settle (stage : Stage) (config : Config) (rest : List Bytes) : Except Failure Config :=
  (readSettings stage rest).map config.applyAll

variable {stage : Stage} {config : Config} {token value : Bytes} {rest : List Bytes}

theorem settle_nil : settle stage config [] = .ok config :=
  rfl

theorem settle_of_readFlag_error {failure : Failure}
    (hflag : readFlag stage token = .error failure) :
    settle stage config (token :: rest) = .error failure := by
  rw [settle, readSettings_of_readFlag_error hflag]
  rfl

theorem settle_lone {flag : Flag} (hflag : readFlag stage token = .ok flag) :
    settle stage config [token] = .error (.missingValue flag) := by
  simp only [settle, readSettings, hflag, Except.map]

theorem settle_of_readValue_error {flag : Flag} {failure : Failure}
    (hflag : readFlag stage token = .ok flag) (hvalue : readValue value flag = .error failure) :
    settle stage config (token :: value :: rest) = .error failure := by
  simp only [settle, readSettings, hflag, hvalue, Except.map]

/-- A flag and a value that are read leave the rest to the configuration that they change. -/
theorem settle_pair {flag : Flag} {setting : Setting} (hflag : readFlag stage token = .ok flag)
    (hvalue : readValue value flag = .ok setting) :
    settle stage config (token :: value :: rest) = settle stage (config.apply setting) rest := by
  simp only [settle, readSettings, hflag, hvalue]
  cases readSettings stage rest <;> rfl

/-- Behind a keyword and an input path, the resolver answers with what the other arguments make of
the initial configuration. -/
theorem resolve_eq_settle {input : Bytes} (hinput : input ≠ []) :
    resolve (stage.keyword :: input :: rest) =
      (settle stage (Config.initial stage input) rest).mapError Refusal.malformed := by
  cases hread : readSettings stage rest with
  | error failure =>
    rw [resolve_complete_error hinput hread, settle, hread]
    rfl
  | ok settings =>
    rw [resolve_complete_ok hinput hread, settle, hread]
    rfl

/-! ### One visit -/

variable {arguments : List Bytes} {position : Nat}

theorem visit_of_readFlag_error {failure : Failure} (hinside : position < arguments.length)
    (hflag : readFlag stage arguments[position] = .error failure) :
    Cursor.visit stage arguments position config = ⟨[position], .error (.refused failure)⟩ := by
  simp only [Cursor.visit, argument_of_lt hinside, bind_ok, hflag, verdict, bind_error,
    List.append_nil]

/-- At the end of the list a flag is read three times, and nothing behind it. -/
theorem visit_lone {flag : Flag} (hinside : position < arguments.length)
    (hlast : arguments.length ≤ position + 1)
    (hflag : readFlag stage arguments[position] = .ok flag) :
    Cursor.visit stage arguments position config =
      ⟨[position, position, position], .error (.refused (.missingValue flag))⟩ := by
  simp only [Cursor.visit, Cursor.valueBehind, ge_iff_le, if_pos hlast, argument_of_lt hinside,
    bind_ok, hflag, verdict, bind_error, List.cons_append, List.nil_append]

theorem visit_of_readValue_error {flag : Flag} {failure : Failure}
    (hbehind : position + 1 < arguments.length)
    (hflag : readFlag stage arguments[position] = .ok flag)
    (hvalue : readValue arguments[position + 1] flag = .error failure) :
    Cursor.visit stage arguments position config =
      ⟨[position, position + 1], .error (.refused failure)⟩ := by
  have hinside : position < arguments.length := Nat.lt_of_succ_lt hbehind
  simp only [Cursor.visit, Cursor.valueBehind, ge_iff_le, if_neg (Nat.not_le_of_lt hbehind),
    argument_of_lt hinside, argument_of_lt hbehind, bind_ok, hflag, hvalue, verdict, bind_error,
    List.cons_append, List.nil_append]

theorem visit_pair {flag : Flag} {setting : Setting} (hbehind : position + 1 < arguments.length)
    (hflag : readFlag stage arguments[position] = .ok flag)
    (hvalue : readValue arguments[position + 1] flag = .ok setting) :
    Cursor.visit stage arguments position config =
      ⟨[position, position + 1], .ok (position + 1, config.apply setting)⟩ := by
  have hinside : position < arguments.length := Nat.lt_of_succ_lt hbehind
  simp only [Cursor.visit, Cursor.valueBehind, ge_iff_le, if_neg (Nat.not_le_of_lt hbehind),
    argument_of_lt hinside, argument_of_lt hbehind, bind_ok, hflag, hvalue, verdict,
    List.cons_append, List.nil_append]
  rfl

/-- Assumes: a position inside the list. A visit either takes the flag there and its value, and
leaves the cursor at the value, or it refuses an argument as the reader does. In both cases it reads
only inside the list. -/
theorem visit_cases (hinside : position < arguments.length) (config : Config) :
    (∃ setting, Cursor.visit stage arguments position config =
        ⟨[position, position + 1], .ok (position + 1, config.apply setting)⟩ ∧
      position + 1 < arguments.length ∧
      settle stage config (arguments.drop position) =
        settle stage (config.apply setting) (arguments.drop (position + 2))) ∨
    ∃ reads failure, Cursor.visit stage arguments position config =
        ⟨reads, .error (.refused failure)⟩ ∧
      (∀ read ∈ reads, read < arguments.length) ∧
      settle stage config (arguments.drop position) = .error failure := by
  rw [List.drop_eq_getElem_cons hinside]
  cases hflag : readFlag stage arguments[position] with
  | error failure =>
    exact Or.inr ⟨_, failure, visit_of_readFlag_error hinside hflag,
      List.forall_mem_singleton.mpr hinside, settle_of_readFlag_error hflag⟩
  | ok flag =>
    rcases Nat.lt_or_ge (position + 1) arguments.length with hbehind | hlast
    · rw [List.drop_eq_getElem_cons hbehind]
      cases hvalue : readValue arguments[position + 1] flag with
      | error failure =>
        exact Or.inr ⟨_, failure, visit_of_readValue_error hbehind hflag hvalue,
          List.forall_mem_cons.mpr ⟨hinside, List.forall_mem_singleton.mpr hbehind⟩,
          settle_of_readValue_error hflag hvalue⟩
      | ok setting =>
        exact Or.inl ⟨setting, visit_pair hbehind hflag hvalue, hbehind, settle_pair hflag hvalue⟩
    · rw [List.drop_eq_nil_of_le hlast]
      exact Or.inr ⟨_, _, visit_lone hinside hlast hflag,
        List.forall_mem_cons.mpr ⟨hinside,
          List.forall_mem_cons.mpr ⟨hinside, List.forall_mem_singleton.mpr hinside⟩⟩,
        settle_lone hflag⟩

/-! ### One turn -/

section Turn

variable {tests reads reads' : List Nat}

theorem turn_of_visit_ok {reached : Nat} {config' : Config} (hinside : position < arguments.length)
    (hvisit : Cursor.visit stage arguments position config = ⟨reads', .ok (reached, config')⟩) :
    Walk.turn stage arguments ⟨tests, reads, .testing position config⟩ =
      ⟨tests ++ [position], reads ++ reads', .testing (reached + 1) config'⟩ := by
  simp only [Walk.turn, if_pos hinside, hvisit]

theorem turn_of_visit_error {ending : Ending} (hinside : position < arguments.length)
    (hvisit : Cursor.visit stage arguments position config = ⟨reads', .error ending⟩) :
    Walk.turn stage arguments ⟨tests, reads, .testing position config⟩ =
      ⟨tests ++ [position], reads ++ reads', .ended ending⟩ := by
  simp only [Walk.turn, if_pos hinside, hvisit]

theorem turn_of_end (hend : position = arguments.length) :
    Walk.turn stage arguments ⟨tests, reads, .testing position config⟩ =
      ⟨tests ++ [position], reads, .ended (.arrived position config)⟩ := by
  simp only [Walk.turn, hend, Nat.lt_irrefl, if_false]

end Turn

/-! ### Any number of turns -/

/-- What a walk looks like after a number of turns, if the reader comes to an outcome. -/
inductive OnCourse (stage : Stage) (arguments : List Bytes) (outcome : Except Failure Config)
    (turns : Nat) : Walk → Prop
  /-- The cursor is two positions further for every turn, and what is left to read decides. -/
  | testing {config : Config} (hinside : 2 + 2 * turns ≤ arguments.length)
      (houtcome : settle stage config (arguments.drop (2 + 2 * turns)) = outcome) :
      OnCourse stage arguments outcome turns
        ⟨List.range' 2 turns 2, List.range' 2 (2 * turns), .testing (2 + 2 * turns) config⟩
  /-- The cursor met the end of the list after some turns, and one more turn only tested for it. -/
  | arrived {earlier : Nat} {config : Config} (hend : 2 + 2 * earlier = arguments.length)
      (houtcome : outcome = .ok config) :
      OnCourse stage arguments outcome turns
        ⟨List.range' 2 (earlier + 1) 2, List.range' 2 (2 * earlier),
          .ended (.arrived arguments.length config)⟩
  /-- After some turns another one found an argument that the reader refuses too. -/
  | refused {earlier : Nat} {reads : List Nat} {failure : Failure}
      (hreads : ∀ read ∈ reads, read < arguments.length) (houtcome : outcome = .error failure) :
      OnCourse stage arguments outcome turns
        ⟨List.range' 2 (earlier + 1) 2, reads, .ended (.refused failure)⟩

namespace OnCourse

variable {outcome : Except Failure Config} {turns : Nat} {walk : Walk}

theorem start (stage : Stage) (input : Bytes) (hlength : 2 ≤ arguments.length) :
    OnCourse stage arguments (settle stage (Config.initial stage input) (arguments.drop 2)) 0
      (Walk.start stage input) :=
  .testing hlength rfl

/-- One more turn keeps a walk on course. -/
theorem turn (hwalk : OnCourse stage arguments outcome turns walk) :
    OnCourse stage arguments outcome (turns + 1) (walk.turn stage arguments) := by
  cases hwalk with
  | @testing config hinside houtcome =>
    have htests : List.range' 2 turns 2 ++ [2 + 2 * turns] = List.range' 2 (turns + 1) 2 :=
      List.range'_concat.symm
    -- The turn takes a flag and its value, refuses an argument, or finds the end of the list.
    rcases Nat.lt_or_eq_of_le hinside with hinside | hend
    · rcases visit_cases hinside config with
        ⟨setting, hvisit, hbehind, hsettle⟩ | ⟨reads, failure, hvisit, hreads, hsettle⟩
      · have hposition : 2 + 2 * turns + 2 = 2 + 2 * (turns + 1) := by omega
        have hreads : List.range' 2 (2 * turns) ++ [2 + 2 * turns, 2 + 2 * turns + 1] =
            List.range' 2 (2 * (turns + 1)) := by
          rw [Nat.mul_succ, List.range'_concat, List.range'_concat]
          simp [Nat.add_assoc]
        rw [turn_of_visit_ok hinside hvisit, htests, hreads, hposition]
        rw [hposition] at hsettle
        exact .testing (by omega) (hsettle.symm.trans houtcome)
      · rw [turn_of_visit_error hinside hvisit, htests]
        refine .refused ?_ (houtcome.symm.trans hsettle)
        intro read hread
        rcases List.mem_append.mp hread with hread | hread
        · have hbounds := List.mem_range'_1.mp hread
          omega
        · exact hreads read hread
    · rw [turn_of_end hend, htests, hend]
      rw [hend, List.drop_length, settle_nil] at houtcome
      exact .arrived hend houtcome.symm
  | arrived hend houtcome => exact .arrived hend houtcome
  | refused hreads houtcome => exact .refused hreads houtcome

/-- A walk is on course after any number of turns. -/
theorem turned {start : Walk} (hstart : OnCourse stage arguments outcome 0 start) (turns : Nat) :
    OnCourse stage arguments outcome turns (start.turned stage arguments turns) := by
  induction turns with
  | zero => exact hstart
  | succ turns ih => exact ih.turn

/-! ### What a walk on course shows -/

/-- The positions that are tested are even. -/
theorem even_of_mem_tests (hwalk : OnCourse stage arguments outcome turns walk) :
    ∀ test ∈ walk.tests, test % 2 = 0 := by
  have heven (count : Nat) : ∀ test ∈ List.range' 2 count 2, test % 2 = 0 := by
    intro test htest
    obtain ⟨index, -, rfl⟩ := List.mem_range'.mp htest
    omega
  cases hwalk with
  | testing => exact heven _
  | arrived => exact heven _
  | refused => exact heven _

/-- The positions that are read are inside the list. -/
theorem lt_of_mem_reads (hwalk : OnCourse stage arguments outcome turns walk) :
    ∀ read ∈ walk.reads, read < arguments.length := by
  cases hwalk with
  | testing hinside =>
    intro read hread
    have hbounds := List.mem_range'_1.mp hread
    omega
  | arrived hend =>
    intro read hread
    have hbounds := List.mem_range'_1.mp hread
    omega
  | refused hreads => exact hreads

theorem place_ne_astray (hwalk : OnCourse stage arguments outcome turns walk) (position : Nat) :
    walk.place ≠ .ended (.astray position) := by
  intro hplace
  cases hwalk <;> cases hplace

/-- A cursor that leaves the list does so at its end, and everything from the input path to there
has been read once. -/
theorem eq_of_place_arrived (hwalk : OnCourse stage arguments outcome turns walk) {position : Nat}
    {config : Config} (hplace : walk.place = .ended (.arrived position config)) :
    position = arguments.length ∧ walk.reads = List.range' 2 (arguments.length - 2) := by
  cases hwalk with
  | testing => cases hplace
  | arrived hend =>
    cases hplace
    rw [← hend, Nat.add_sub_cancel_left]
    exact ⟨rfl, rfl⟩
  | refused => cases hplace

/-- Assumes: enough turns to take the arguments in pairs. The walk has ended as the reader does. -/
theorem ended (hwalk : OnCourse stage arguments outcome turns walk)
    (hturns : arguments.length / 2 ≤ turns) :
    (∃ config, walk.place = .ended (.arrived arguments.length config) ∧ outcome = .ok config) ∨
      ∃ failure, walk.place = .ended (.refused failure) ∧ outcome = .error failure := by
  cases hwalk with
  | testing hinside => omega
  | arrived hend houtcome => exact Or.inl ⟨_, rfl, houtcome⟩
  | refused hreads houtcome => exact Or.inr ⟨_, rfl, houtcome⟩

end OnCourse

/-! ### Whole argument lists -/

/-- Assumes: a list that begins with a keyword and an input path. Over it a walk reads no argument
outside the list, whatever the number of its turns, it is at an even position whenever it tests for
the end, and if it arrives, it does so at the end of the list with everything behind the input path
read once and in order. After half as many turns as there are arguments it has ended, with the
configuration or the failure that the resolver answers with. -/
theorem walk_resolves {args : List Bytes} {keyword input : Bytes} {arguments : List Bytes}
    {stage : Stage} (hargs : args = keyword :: input :: arguments)
    (hkeyword : Stage.ofKeyword? keyword = some stage) (hinput : input ≠ []) :
    (∀ turns, let walk := (Walk.start stage input).turned stage args turns
      (∀ read ∈ walk.reads, read < args.length) ∧
      (∀ test ∈ walk.tests, test % 2 = 0) ∧
      (∀ position, walk.place ≠ .ended (.astray position)) ∧
      ∀ position config, walk.place = .ended (.arrived position config) →
        position = args.length ∧ walk.reads = List.range' 2 (args.length - 2)) ∧
    ∀ turns, args.length / 2 ≤ turns →
      let walk := (Walk.start stage input).turned stage args turns
      (∃ config, walk.place = .ended (.arrived args.length config) ∧ resolve args = .ok config) ∨
        ∃ failure, walk.place = .ended (.refused failure) ∧
          resolve args = .error (.malformed failure) := by
  obtain rfl := Stage.ofKeyword?_eq_some_iff.mp hkeyword
  have hlength : 2 ≤ args.length := by
    rw [hargs]
    exact Nat.le_add_left 2 arguments.length
  have hcourse := (OnCourse.start stage input hlength).turned
  have hresolve : resolve args =
      (settle stage (Config.initial stage input) (args.drop 2)).mapError Refusal.malformed := by
    rw [hargs]
    exact resolve_eq_settle hinput
  constructor
  · intro turns walk
    have hwalk := hcourse turns
    exact ⟨hwalk.lt_of_mem_reads, hwalk.even_of_mem_tests, hwalk.place_ne_astray,
      fun position config ↦ hwalk.eq_of_place_arrived⟩
  · intro turns hturns walk
    rcases (hcourse turns).ended hturns with
      ⟨config, hplace, houtcome⟩ | ⟨failure, hplace, houtcome⟩
    · refine Or.inl ⟨config, hplace, ?_⟩
      rw [hresolve, houtcome]
      rfl
    · refine Or.inr ⟨failure, hplace, ?_⟩
      rw [hresolve, houtcome]
      rfl

-- A flag at the end of the list is refused without a look behind it.
example : (Walk.start .lex (utf8 "a")).turned .lex [utf8 "lex", utf8 "a", utf8 "--out"] 1 =
    ⟨[2], [2, 2, 2], .ended (.refused (.missingValue .out))⟩ :=
  rfl

/-- A list that ends with a value, and whose values look like flags: three turns take the cursor to
its end. -/
theorem walk_resolves_value_last :
    let args := [utf8 "com", utf8 "a", utf8 "--out", utf8 "--target", utf8 "--target", utf8 "ir"]
    let config : Config := ⟨.compile .ir, utf8 "a", utf8 "--target"⟩
    let walk := (Walk.start .compile (utf8 "a")).turned .compile args 3
    Stage.ofKeyword? (utf8 "com") = some .compile ∧ utf8 "a" ≠ [] ∧
      resolve args = .ok config ∧ walk.place = .ended (.arrived 6 config) ∧
      walk.reads = [2, 3, 4, 5] ∧ ∀ test ∈ walk.tests, test % 2 = 0 := by
  intro args config walk
  have hkeyword : Stage.ofKeyword? (utf8 "com") = some .compile := by decide
  have hinput : utf8 "a" ≠ [] := by decide
  have hresolve : resolve args = .ok config := rfl
  obtain ⟨hsafe, hends⟩ := walk_resolves (rfl : args = _) hkeyword hinput
  obtain ⟨-, heven, -, harrived⟩ := hsafe 3
  rcases hends 3 (by decide) with ⟨found, hplace, hfound⟩ | ⟨failure, -, hfailure⟩
  · obtain rfl : config = found := Except.ok.inj (hresolve.symm.trans hfound)
    exact ⟨hkeyword, hinput, hresolve, hplace, (harrived _ _ hplace).2, heven⟩
  · rw [hresolve] at hfailure
    cases hfailure

end Invocation
