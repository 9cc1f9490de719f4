import HttpBlueprint.Error
import HttpBlueprint.Text.Blank
import HttpBlueprint.Text.Split
/-!
# Placeholders

A template text is literal text with placeholders `{name}` or `{name:pattern}`.
`Segment.scan` cuts a text into literals and holes: a hole runs from a `{` to the
first `}` after it, and may itself hold `{` or `:`. A `{` with no `}` after it is
literal, as is everything after it. The name of a hole is its text before the
first `:`, without blanks at either end.

`expandSegments` fills the holes in order through a lookup and joins the pieces,
writing each literal through a writer. The lookup may fail, which stops the
expansion, or give nothing, which drops the whole text.

`singleHole?` recognises a text that is one placeholder and nothing else.
-/

namespace HttpBlueprint

/-- A piece of a template text. -/
inductive Segment where
  | literal (text : List Char)
  /-- A placeholder, with the text between its braces. -/
  | hole (body : List Char)
  deriving Repr, DecidableEq, Inhabited

namespace Segment

/-- Scans the rest of a text, with the literal read so far and, inside a hole,
the hole's text read so far. -/
def scanFrom : List Char → List Char → Option (List Char) → List Segment
  | [], lit, none => [.literal lit]
  | [], lit, some body => [.literal (lit ++ '{' :: body)]
  | c :: rest, lit, none =>
    if c == '{' then scanFrom rest lit (some []) else scanFrom rest (lit ++ [c]) none
  | c :: rest, lit, some body =>
    if c == '}' then .literal lit :: .hole body :: scanFrom rest [] none
    else scanFrom rest lit (some (body ++ [c]))

/-- The literals and holes of a text. -/
def scan (s : String) : List Segment := scanFrom s.toList [] none

end Segment

/-- The name of a placeholder: the text before its first `:`, without blanks at
either end. -/
def holeName (body : String) : String :=
  Blank.trim ((Text.splitOnce body ':').map (·.1) |>.getD body)

/-- Fills holes in order. `lookup` gives a hole's text, nothing (the whole
expansion gives nothing), or a failure; `literal` writes a literal. -/
def expandSegments (lookup : String → Except Error (Option String))
    (literal : String → String) : List Segment → Except Error (Option String)
  | [] => .ok (some "")
  | .literal text :: rest => do
    match ← expandSegments lookup literal rest with
    | some tail => pure (some (literal (String.ofList text) ++ tail))
    | none => pure none
  | .hole body :: rest => do
    match ← lookup (holeName (String.ofList body)) with
    | none => pure none
    | some text =>
      match ← expandSegments lookup literal rest with
      | some tail => pure (some (text ++ tail))
      | none => pure none

/-- Fills the placeholders of a text. -/
def expandText (s : String) (lookup : String → Except Error (Option String))
    (literal : String → String := id) : Except Error (Option String) :=
  expandSegments lookup literal (Segment.scan s)

/-- The name of the placeholder a text consists of, if it is one placeholder
with no brace inside. -/
def singleHole? (s : String) : Option String :=
  match s.toList with
  | '{' :: rest =>
    match rest.reverse with
    | '}' :: body =>
      let inner := body.reverse
      if inner.any (fun c => c == '{' || c == '}') then none
      else some (holeName (String.ofList inner))
    | _ => none
  | _ => none

end HttpBlueprint
