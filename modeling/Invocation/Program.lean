import Invocation.Text.Utf8

/-!
# What the program is called

A build may carry a version of its own, which the program then shows in place of `version`. That
is left out here: the program is always one without such a version.
-/

set_option autoImplicit false
set_option relaxedAutoImplicit false

namespace Invocation.Program

/-- Who makes the program. -/
def vendor : Bytes :=
  utf8 "hexaflex"

/-- The name of the program. -/
def name : Bytes :=
  utf8 "peacock"

/-- The version of the program, where its build carries no other. -/
def version : Bytes :=
  utf8 "v0.1.0"

/-- The line by which the program introduces itself. -/
def banner : Bytes :=
  vendor ++ utf8 " " ++ name ++ utf8 " " ++ version

/-- The environment variable that selects the log level. -/
def logVariable : String :=
  "PEACOCK_LOG"

end Invocation.Program
