import Invocation.Log.Logger
import Invocation.Resolve
import Invocation.Usage

/-!
# Running the program

A run resolves its arguments and reports the result. An accepted invocation is reported by its
summary on the first stream, a malformed one by a diagnostic of one line on the second, and a
request for help by the banner and the usage text on the first. Log records go to the second stream
in between. Of all writes only that of the usage text is checked: when it fails, that is reported
like a malformed invocation.

`judge` is the part of a run that does not log. The banner, in the usage text and in the log, is that
of a program whose build carries no version of its own (`Program.version`).
-/

set_option autoImplicit false
set_option relaxedAutoImplicit false

namespace Invocation

/-- How the program tells its caller that it succeeded or failed. -/
inductive ExitStatus where
  | success
  | failure
  deriving DecidableEq, Repr

/-- The number of an exit status. -/
def ExitStatus.code : ExitStatus → Nat
  | success => 0
  | failure => 1

/-- The line that reports a fault. -/
def diagnosticLine (fault : Fault) : Bytes :=
  Program.name ++ utf8 ": " ++ fault.message ++ [Text.newline]

/-- What follows from the arguments: go on with a configuration, or stop. -/
inductive Verdict where
  | proceed (config : Config)
  | stop (status : ExitStatus)
  deriving DecidableEq, Repr

namespace Verdict

/-- The configuration to go on with. -/
def config? : Verdict → Option Config
  | proceed config => some config
  | stop _ => none

/-- The exit status so far. -/
def status : Verdict → ExitStatus
  | proceed _ => .success
  | stop status => status

end Verdict

/-- The banner and the usage text on the first stream. Only a failure to write the usage text is
reported. -/
def showHelp (streams : Streams) : Verdict × Streams :=
  let greeted := streams.writeOut (Program.banner ++ [Text.newline])
  let shown := { greeted with out := Usage.write Program.name greeted.out }
  match Usage.fault? Program.name greeted.out with
  | none => (.stop .success, shown)
  | some fault => (.stop .failure, shown.writeErr (diagnosticLine fault))

/-- Resolves the arguments and says on the streams why there is no configuration, if there is
none. -/
def judge (args : List Bytes) (streams : Streams) : Verdict × Streams :=
  match resolve args with
  | .ok config => (.proceed config, streams)
  | .error .help => showHelp streams
  | .error (.malformed failure) =>
    let fault := (Refusal.malformed failure).fault
    (.stop .failure, streams.writeErr (diagnosticLine fault))

/-- The record at the start of a run. -/
def startingRecord (args : List Bytes) : Record where
  level := .debug
  message := utf8 "starting"
  fields := [⟨utf8 "version", Program.banner⟩, ⟨utf8 "args", Value.ofList args⟩]

/-- The record of an accepted invocation. -/
def resolvedRecord (config : Config) : Record where
  level := .debug
  message := utf8 "resolved invocation"
  fields :=
    [⟨utf8 "mode", config.mode.label⟩, ⟨utf8 "stage", config.mode.stage.keyword⟩,
     ⟨utf8 "input", config.input⟩, ⟨utf8 "output", config.output⟩]

/-- A run of the program on its arguments and the value of its log variable, which is empty when
it is not set. -/
def run (args : List Bytes) (setting : Bytes) (streams : Streams) : ExitStatus × Streams :=
  let logger := Logger.ofSetting setting
  let opened := (streams.writeErr (Logger.notice setting)).writeErr
    (logger.textOf (startingRecord args))
  match judge args opened with
  | (.stop status, closed) => (status, closed)
  | (.proceed config, judged) =>
    let logged := judged.writeErr (logger.textOf (resolvedRecord config))
    (.success, logged.writeOut (config.summary ++ [Text.newline]))

end Invocation
