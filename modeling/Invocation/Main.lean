import Invocation.Run

/-!
# The command line program
-/

set_option autoImplicit false
set_option relaxedAutoImplicit false

open Invocation in
/-- Runs the program on its arguments and environment, and writes what it says to the streams. -/
def main (args : List String) : IO UInt32 := do
  let setting := (← IO.getEnv Program.logVariable).getD ""
  let (status, streams) := run (args.map utf8) (utf8 setting) .unlimited
  (← IO.getStderr).write ⟨streams.err.held.toArray⟩
  (← IO.getStdout).write ⟨streams.out.held.toArray⟩
  return status.code.toUInt32
