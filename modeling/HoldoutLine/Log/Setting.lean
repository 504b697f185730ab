import HoldoutLine.Decimal.Numeral
import HoldoutLine.Log.Filter
import HoldoutLine.Pattern.Form
import HoldoutLine.Text.Alphanumeric
import HoldoutLine.Text.Blank

/-! # Log settings

A log setting is a list of directives with commas between them. A directive is a level, the path of a
topic, or a path and a level with an equal sign between them; between the path and the equal sign,
brackets may hold the name of a span of work and, in braces, the fields that an entry has to have. A
setting in which one directive cannot be read is no setting at all.

This library has no spans of work and no entry has a field but its message, so a directive that names a
span, or the value of a field, covers nothing.
-/

namespace HoldoutLine

structure LogDirective where
  path : Option (List Char)
  /-- Whether the directive is about a named span of work. -/
  inSpan : Bool
  /-- The fields it names, each perhaps with a value after an equal sign. -/
  fields : List (List Char)
  /-- The highest rank that it shows. -/
  limit : Nat
  deriving DecidableEq, Repr

namespace LogDirective

/-- The highest rank that is shown when a directive states no level. -/
def fullLimit : Nat := LogLevel.trace.rank

/-- The rank that a text names, by the name of a level in any case or by its number. -/
def limit? (text : List Char) : Option Nat :=
  let digits := match text with
    | '+' :: rest => rest
    | other => other
  let number := Numeral.ofDigits digits
  if !digits.isEmpty ∧ digits.all Char.isDigit ∧ number ≤ fullLimit then some number
  else match String.ofList (text.map Char.toLower) with
    | "off" => some 0
    | "error" => some LogLevel.error.rank
    | "warn" => some LogLevel.warn.rank
    | "info" => some LogLevel.info.rank
    | "debug" => some LogLevel.debug.rank
    | "trace" => some LogLevel.trace.rank
    | _ => none

/-- A character of a directive by which its parts are told apart, and what is written in its place. -/
structure Mark where
  seen : Char
  written : List Char

/-- The characters of a text, each with the byte that it begins at. -/
def located (start : Nat) : List Char → List (Nat × Char)
  | [] => []
  | c :: rest => (start, c) :: located (start + c.utf8Size) rest

/-- Give each character of one text those of another that begin on its bytes, and give what the other
text has beyond. -/
def marksOf : List (Nat × Char) → List (Nat × Char) → List Mark × List Char
  | [], other => ([], other.map (·.2))
  | (start, c) :: rest, other =>
    let (here, later) := other.span (·.1 < start + c.utf8Size)
    let (marks, after) := marksOf rest later
    (⟨c, here.map (·.2)⟩ :: marks, after)

/-- The written text of marks. -/
def written (marks : List Mark) : List Char := marks.flatMap Mark.written

/-- The rank that the rest of a directive states; nothing after the equal sign stands for all. -/
def statedLimit? (rest : List Mark) (after : List Char) : Option Nat :=
  match written rest ++ after with
  | [] => some fullLimit
  | text => limit? text

/-- What may follow the closing bracket: nothing, or an equal sign and a level. -/
def afterBracket? (rest : List Mark) (after : List Char) : Option Nat :=
  match rest with
  | [] => some fullLimit
  | mark :: rest => if mark.seen = '=' then statedLimit? rest after else none

/-- Whether a text may be asked for as the value of a field: a truth value, a numeral or a pattern. -/
def isFieldValue (text : List Char) : Bool :=
  text = "true".toList || text = "false".toList || (Numeral.parse? text).isSome ||
    Pattern.isPattern text

/-- Whether a field can be read: its name alone, or with a value after an equal sign. A second equal sign
ends the value. -/
def isField (text : List Char) : Bool :=
  match text.splitOn '=' with
  | _ :: value :: _ => isFieldValue value
  | _ => true

def fields? (inside : List Mark) : Option (List (List Char)) :=
  let field := written inside
  if field.isEmpty || !isField field then none else some [field]

/-- What brackets hold, after the opening one: whether a span is named, the fields, and what follows the
closing bracket. -/
def brackets? (marks : List Mark) : Option (Bool × List (List Char) × List Mark) :=
  match marks.span fun mark => mark.seen ≠ ']' ∧ mark.seen ≠ '\x7b' with
  | (name, mark :: rest) =>
    if mark.seen = ']' then some (true, [], rest)
    else match rest.span fun mark => mark.seen ≠ '\x7d' with
      | (inside, _ :: closing :: rest) =>
        if closing.seen = ']' then (fields? inside).map fun fields => (!name.isEmpty, fields, rest)
        else none
      | _ => none
  | _ => none

/-- Read brackets and what follows them. -/
def bracketed? (path : Option (List Char)) (marks : List Mark) (after : List Char) :
    Option LogDirective := do
  let (inSpan, fields, rest) ← brackets? marks
  return ⟨path, inSpan, fields, ← afterBracket? rest after⟩

/-- A character that a path or a level may start with. -/
def startsName (c : Char) : Bool := c = '-' || c = ':' || c = '_' || isAlphanumeric c

/-- A directive without brackets and equal sign is a level, or else a path. -/
def ofName (text : List Char) : LogDirective :=
  match limit? text with
  | some limit => ⟨none, false, [], limit⟩
  | none => ⟨some text, false, [], fullLimit⟩

/-- Read a directive. Its parts are told apart as if it had no blanks around it, but their texts are cut
at the same bytes from the directive as it is written, so a directive with blanks around it hardly ever
names what it seems to name. -/
def parse? (text : List Char) : Option LogDirective :=
  let (marks, after) := marksOf (located 0 (trimBlanks text)) (located 0 text)
  match marks with
  | [] => none
  | first :: others =>
    if first.seen = '[' then bracketed? none others after
    else if !startsName first.seen then none
    else match marks.span fun mark => mark.seen ≠ '=' ∧ mark.seen ≠ '[' with
      | (_, []) => some (ofName text)
      | (name, mark :: rest) =>
        if mark.seen = '[' then bracketed? (some (written name)) rest after
        else (statedLimit? rest after).map (⟨some (written name), false, [], ·⟩)

/-- The rule that a directive sets up, if it can cover anything. -/
def rule? (directive : LogDirective) : Option LogRule :=
  if directive.inSpan || directive.fields.any (·.contains '=') then none
  else some ⟨directive.path, directive.fields, directive.limit⟩

end LogDirective

/-- The filter that a setting asks for; a setting without directives shows errors only. -/
def LogFilter.ofSetting? (setting : String) : Option LogFilter := do
  let parts := (setting.toList.splitOn ',').filter (!·.isEmpty)
  let directives ← parts.mapM LogDirective.parse?
  if directives.isEmpty then return upTo .error
  else return ⟨directives.filterMap LogDirective.rule?⟩

end HoldoutLine
