import Invocation.Log.Level
import Invocation.Program
import Invocation.Text.Blank
import Invocation.Text.Escape
import Invocation.Text.Lines

/-!
# Log records

A record is a level, a message and fields, each a key with a value. It starts with the tag of its
level and the name of the program. The message follows as it is, except that a tab is written as
spaces (`expandTabs`). Fields follow on the same line, unless a value holds newlines. Such a value
is set below its key, one line for each of its own behind a bar, so that no line of it can be taken
for anything else. A value that could be misread on the line of its record is put between quotation
marks.

Both forms of a value escape what is not printable (`Value.escaped`), in two styles that differ in whether a
quotation mark needs protection. A text with nothing to escape is written as it is, stray bytes
included; in any other a stray byte becomes the replacement character.
-/

set_option autoImplicit false
set_option relaxedAutoImplicit false

namespace Invocation

open Text

namespace Value

/-- A list as one value: its items in brackets with a space between any two. -/
def ofList (items : List Bytes) : Bytes :=
  utf8 "[" ++ (utf8 " ").intercalate items ++ utf8 "]"

/-- What is written for a stray byte in an escaped value. -/
def replacement : Bytes :=
  encodeChar '\uFFFD'

/-- The style of a value between quotation marks. -/
def quotedValue : Style where
  marks := ['"']
  shortDelete := false
  stray _ := replacement

/-- The style of a line of a value that holds newlines. -/
def barredLine : Style where
  marks := []
  shortDelete := false
  stray _ := replacement

/-- Whether a character keeps the text around it from being written as it is. -/
def isAwkward (c : Char) : Bool :=
  !isPrintable c || c == '"'

/-- A text in a style, or as it is where no character of it is awkward. -/
def escaped (style : Style) (text : Bytes) : Bytes :=
  if (pieces text).any (isAwkward ·.shown) then style.write text else text

/-- Whether a character of a value calls for quotation marks around the value. -/
def isMisleading (c : Char) : Bool :=
  isAwkward c || c == '=' || isBlank c || c == '\uFFFD'

/-- Whether a value needs quotation marks. -/
def needsQuotes (value : Bytes) : Bool :=
  (pieces value).any (isMisleading ·.shown)

/-- What stands in front of each line of a value that holds newlines. -/
def bar : Bytes :=
  utf8 "  │ "

/-- The lines of a value behind bars. A newline follows every line but the last one, which is left
out when it is empty; otherwise a newline follows it when more fields follow. -/
def barred (isLast : Bool) : List Bytes → Bytes
  | [] => []
  | [line] =>
    if line = [] then []
    else bar ++ escaped barredLine line ++ (if isLast then [] else [newline])
  | line :: others => bar ++ escaped barredLine line ++ [newline] ++ barred isLast others

end Value

/-- A named value in a log record. -/
structure Field where
  key : Bytes
  value : Bytes
  deriving DecidableEq, Repr

/-- A field as it is written behind a message. -/
def Field.text (field : Field) (isLast : Bool) : Bytes :=
  if field.value = [] then utf8 " " ++ field.key ++ utf8 "=\"\""
  else if newline ∈ field.value then
    utf8 "\n  " ++ field.key ++ utf8 "=\n" ++ Value.barred isLast (lines field.value)
  else if Value.needsQuotes field.value then
    utf8 " " ++ field.key ++ utf8 "=\"" ++ Value.escaped Value.quotedValue field.value ++ utf8 "\""
  else utf8 " " ++ field.key ++ utf8 "=" ++ field.value

/-- Fields as they are written one behind the other. -/
def fieldsText : List Field → Bytes
  | [] => []
  | [field] => field.text true
  | field :: others => field.text false ++ fieldsText others

/-- How many spaces are written for a tab in a message. -/
def tabWidth : Nat :=
  4

/-- A message without tabs: each one is the same number of spaces, wherever it stands. -/
def expandTabs (message : Bytes) : Bytes :=
  message.flatMap fun byte ↦
    if byte = ascii '\t' then List.replicate tabWidth (ascii ' ') else [byte]

/-- A message that holds no tab is written as it is. -/
theorem expandTabs_eq_self {message : Bytes} (htab : ascii '\t' ∉ message) :
    expandTabs message = message := by
  induction message with
  | nil => rfl
  | cons byte rest ih =>
    obtain ⟨hbyte, hrest⟩ := not_or.mp (mt List.mem_cons.mpr htab)
    have hexpanded : rest.flatMap _ = rest := ih hrest
    rw [expandTabs, List.flatMap_cons, hexpanded, if_neg (Ne.symm hbyte)]
    rfl

/-- An entry of the log. -/
structure Record where
  level : Level
  message : Bytes
  fields : List Field
  deriving DecidableEq, Repr

/-- A record as it is written. A record without a message has no space for one. -/
def Record.text (record : Record) : Bytes :=
  record.level.tag ++ utf8 " " ++ Program.name ++ utf8 ":" ++
    (if record.message = [] then [] else utf8 " " ++ expandTabs record.message) ++
    fieldsText record.fields ++ [newline]

end Invocation
