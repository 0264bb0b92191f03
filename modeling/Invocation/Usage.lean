import Invocation.Sink

/-!
# The usage text

The usage text lists the keywords and the targets that the resolver knows, from the same lists and
in the same order, with what each does. It is written to a stream in one piece.
-/

set_option autoImplicit false
set_option relaxedAutoImplicit false

namespace Invocation

/-- What a stage does, for the user. -/
def Stage.description : Stage → Bytes
  | lex => utf8 "writes lexer output to a file, mainly for debugging"
  | parse => utf8 "writes parser output to a file, mainly for debugging"
  | compile => utf8 "compiles source code to an executable format (default wasm32)"

/-- What compiling for a target does, for the user. -/
def Target.description : Target → Bytes
  | wasm32 => utf8 "compile to a standalone wasm32 wat file"
  | pvm => utf8 "compile to bytecode for the peacock interpreter"
  | ir => utf8 "compile to the intermediate representation text format"

namespace Usage

/-- A text filled up with spaces to a width in bytes. -/
def padded (width : Nat) (text : Bytes) : Bytes :=
  text ++ List.replicate (width - text.length) (Text.ascii ' ')

/-- The line of a stage: its keyword in a column of six, and what it does. -/
def stageLine (stage : Stage) : Bytes :=
  utf8 "    " ++ padded 6 stage.keyword ++ utf8 " " ++ stage.description ++ utf8 "\n"

/-- The line of a target: its name in a column of seven, what compiling for it does, and how output
files are named. -/
def targetLine (target : Target) : Bytes :=
  utf8 "      " ++ padded 7 target.name ++ utf8 " " ++ target.description ++
    (if target = .default then utf8 " (default)" else []) ++
    utf8 ", usually named *" ++ target.extension ++ utf8 "\n"

/-- The usage text of a program with a given name. -/
def text (program : Bytes) : Bytes :=
  utf8 "Usage: " ++ program ++ utf8 " [mode] [input_file] [...options]\n" ++
  utf8 "       " ++ program ++ utf8 " help\n" ++
  utf8 "  modes:\n" ++
  Stage.all.flatMap stageLine ++
  utf8 "  options:\n" ++
  utf8 "    --target <target>  compilation target, com mode only. targets are:\n" ++
  Target.all.flatMap targetLine ++
  utf8 "    --out <path>       output file path, e.g. `--out myfile" ++ Target.wasm32.extension ++
  utf8 "` (default " ++ Config.defaultOutput ++ utf8 ")\n"

/-- The stream after the usage text was written to it. -/
def write (program : Bytes) (sink : Sink) : Sink :=
  sink.write (text program)

/-- The fault of writing the usage text, with a note of what was being written. -/
def fault? (program : Bytes) (sink : Sink) : Option Fault :=
  wrapOne (sink.fault? (text program)) (.context (utf8 "usage"))

end Usage

end Invocation
