import Invocation.Config
import Invocation.Text.Decimal
import Invocation.Text.Quoted

/-!
# Why a command line is refused

A command line is refused because help was asked for, or because of its first malformed argument.
`Failure` lists the causes of the second sort. Each has a kind, which callers tell apart, the
argument to blame if there is one, and a message of one line. A message shows an argument that the
user made up as a quoted token and a word of the program's own as it is.

`Diagnostic` is the form in which a failure leaves the resolver: kind, token and message without
the cause.
-/

set_option autoImplicit false
set_option relaxedAutoImplicit false

namespace Invocation

/-! ### Kinds -/

/-- The kinds of failure that callers tell apart. -/
inductive Kind where
  | usage
  | invalidMode
  | unknownFlag
  | missingValue
  | targetNotSupported
  | unknownTarget
  deriving DecidableEq, Repr

namespace Kind

instance : Numbered Kind where
  order := [usage, invalidMode, unknownFlag, missingValue, targetNotSupported, unknownTarget]
  mem_order kind := by cases kind <;> decide
  nodup_order := by decide

/-- The name of a kind. -/
def name : Kind → Bytes
  | usage => utf8 "UsageError"
  | invalidMode => utf8 "InvalidModeError"
  | unknownFlag => utf8 "UnknownFlagError"
  | missingValue => utf8 "MissingFlagValueError"
  | targetNotSupported => utf8 "TargetNotSupportedError"
  | unknownTarget => utf8 "UnknownTargetError"

/-- The name of the kind with a number. A number that belongs to no kind is shown itself. -/
def nameAt (n : Int) : Bytes :=
  match Numbered.ofNumber? n with
  | some kind => name kind
  | none => utf8 "Kind(" ++ Text.decimal n ++ utf8 ")"

end Kind

/-! ### Failures -/

/-- The causes for which an argument list is malformed. -/
inductive Failure where
  /-- There is no keyword or no input path. -/
  | tooFewArguments
  /-- The input path is empty. -/
  | emptyInput
  /-- The first argument is not a keyword. -/
  | invalidMode (token : Bytes)
  /-- An argument stands where a flag is expected and is none. -/
  | unknownFlag (token : Bytes)
  /-- A flag is the last argument. -/
  | missingValue (flag : Flag)
  /-- A target is named for a stage that has none. -/
  | targetNotSupported (stage : Stage)
  /-- The value of the target flag is not a target. -/
  | unknownTarget (token : Bytes)
  deriving DecidableEq, Repr

/-- Names in a row, as messages list what was expected. -/
def enumerated (names : List Bytes) : Bytes :=
  (utf8 ", ").intercalate names

namespace Failure

/-- The kind of a failure. -/
def kind : Failure → Kind
  | tooFewArguments => .usage
  | emptyInput => .usage
  | invalidMode _ => .invalidMode
  | unknownFlag _ => .unknownFlag
  | missingValue _ => .missingValue
  | targetNotSupported _ => .targetNotSupported
  | unknownTarget _ => .unknownTarget

/-- The argument to blame, or nothing. -/
def token : Failure → Bytes
  | tooFewArguments => []
  | emptyInput => []
  | invalidMode token => token
  | unknownFlag token => token
  | missingValue flag => flag.name
  | targetNotSupported _ => Flag.target.name
  | unknownTarget token => token

/-- The message for the user. -/
def message : Failure → Bytes
  | tooFewArguments => utf8 "expected at least two command line arguments"
  | emptyInput => utf8 "expected a non-empty input file"
  | invalidMode token =>
    utf8 "invalid compilation mode " ++ Text.quote token ++ utf8 ", expected one of: " ++
      enumerated (Stage.all.map Stage.keyword)
  | unknownFlag token => utf8 "unknown compiler flag " ++ Text.quote token
  | missingValue flag => utf8 "expected value after " ++ flag.name ++ utf8 " flag"
  | targetNotSupported stage =>
    Flag.target.name ++ utf8 " is not supported by the " ++ stage.keyword ++ utf8 " mode, use " ++
      Stage.compile.keyword
  | unknownTarget token =>
    utf8 "unknown target " ++ Text.quote token ++ utf8 ", expected one of: " ++
      enumerated (Target.all.map Target.name)

end Failure

/-- A failure as callers see it. The kind is a number, which callers may make up. -/
structure Diagnostic where
  kind : Int
  token : Bytes
  message : Bytes
  deriving DecidableEq, Repr

/-- The diagnostic of a failure. -/
def Failure.diagnostic (failure : Failure) : Diagnostic where
  kind := Numbered.number (some failure.kind)
  token := failure.token
  message := failure.message

/-- Why an argument list has no configuration. -/
inductive Refusal where
  /-- The user asked for the usage text. -/
  | help
  /-- The arguments are malformed. -/
  | malformed (failure : Failure)
  deriving DecidableEq, Repr

end Invocation
