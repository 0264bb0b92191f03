import Invocation.Fault

/-!
# Output streams that may fill up

The program writes to two streams. A stream accepts everything, or holds a limited number of bytes:
a write that does not fit leaves what fits and fails. A failed write is not an end: later writes
are tried again, and the empty one always succeeds. `held_write` says what a write leaves behind
and `fault?_eq_none_iff` when it succeeds.
-/

set_option autoImplicit false
set_option relaxedAutoImplicit false

namespace Invocation

/-- An output stream and what was written to it. -/
structure Sink where
  /-- How many bytes it can hold, if that is limited. -/
  limit : Option Nat
  /-- The text of the fault of a write that does not fit. -/
  complaint : Bytes
  /-- What it holds. -/
  held : Bytes
  deriving DecidableEq, Repr

namespace Sink

/-- A stream with nothing written to it. -/
def empty (limit : Option Nat) (complaint : Bytes) : Sink :=
  ⟨limit, complaint, []⟩

/-- An empty stream that accepts everything. -/
def unlimited : Sink :=
  empty none []

/-- The part of a text that a stream has room for. -/
def accepted (sink : Sink) (text : Bytes) : Bytes :=
  match sink.limit with
  | none => text
  | some limit => text.take (limit - sink.held.length)

/-- Whether a stream has room for the whole of a text. -/
def fits (sink : Sink) (text : Bytes) : Bool :=
  match sink.limit with
  | none => true
  | some limit => text.length ≤ limit - sink.held.length

/-- The stream after a single write, whether or not it failed. -/
def write (sink : Sink) (text : Bytes) : Sink :=
  { sink with held := sink.held ++ sink.accepted text }

/-- The fault of a single write, if it fails. -/
def fault? (sink : Sink) (text : Bytes) : Option Fault :=
  if sink.fits text then none else some (.foreign sink.complaint)

@[simp] theorem write_nil (sink : Sink) : sink.write [] = sink := by
  rcases sink with ⟨_ | limit, complaint, held⟩ <;> simp [write, accepted]

theorem held_write (sink : Sink) (text : Bytes) :
    (sink.write text).held = sink.held ++ sink.accepted text :=
  rfl

/-- A write fails exactly when some of its text is not accepted. -/
theorem fault?_eq_none_iff {sink : Sink} {text : Bytes} :
    sink.fault? text = none ↔ sink.accepted text = text := by
  rcases sink with ⟨_ | limit, complaint, held⟩
  · simp [fault?, fits, accepted]
  · simp only [fault?, fits, accepted, decide_eq_true_eq, ite_eq_left_iff, reduceCtorEq, imp_false,
      Decidable.not_not]
    constructor
    · exact List.take_of_length_le
    · intro htake
      rw [← htake, List.length_take]
      exact Nat.min_le_left _ _

end Sink

/-- The two streams of the program. -/
structure Streams where
  out : Sink
  err : Sink
  deriving DecidableEq, Repr

namespace Streams

/-- Streams that accept everything. -/
def unlimited : Streams :=
  ⟨.unlimited, .unlimited⟩

/-- The streams after a write to the first. -/
def writeOut (streams : Streams) (text : Bytes) : Streams :=
  { streams with out := streams.out.write text }

/-- The streams after a write to the second. -/
def writeErr (streams : Streams) (text : Bytes) : Streams :=
  { streams with err := streams.err.write text }

end Streams

end Invocation
