import HttpBlueprint.Value.Basic
import HttpBlueprint.Decimal.Layout
/-!
# The text of a value

`Value.display` is the text a value stands for inside other text: a list is its
items' texts joined by `,` with no brackets, a map is `{k=v, k=v}`, a record is
`Type{f=v, g=w}`, a cookie `name=value`, a float in plain positional digits.

`Value.render` is the text a value gives to a placeholder: null gives none, a list
gives its items' renderings joined by `,` after dropping those that give none (and
none when nothing is left), and any other value its display.
-/

namespace HttpBlueprint

/-- The text of a cookie. -/
def Cookie.display (c : Cookie) : String := c.name ++ "=" ++ c.value

namespace Value

mutual

/-- The text of a value inside other text. -/
def display : Value → String
  | .null => "null"
  | .bool b => if b then "true" else "false"
  | .int i => toString i
  | .float x => Decimal.plainText x
  | .str s => s
  | .list items => displayItems items
  | .map entries => "\x7b" ++ displayEntries entries ++ "\x7d"
  | .record typeName fields => typeName ++ "\x7b" ++ displayEntries fields ++ "\x7d"
  | .cookie c => c.display

/-- List items joined by `,`. -/
def displayItems : List Value → String
  | [] => ""
  | [v] => display v
  | v :: rest => display v ++ "," ++ displayItems rest

/-- Entries `k=v` joined by `, `. -/
def displayEntries : List (String × Value) → String
  | [] => ""
  | [(k, v)] => k ++ "=" ++ display v
  | (k, v) :: rest => k ++ "=" ++ display v ++ ", " ++ displayEntries rest

end

mutual

/-- The text a value gives to a placeholder, if any. -/
def render : Value → Option String
  | .null => none
  | .list items =>
    match renderItems items with
    | [] => none
    | parts => some (",".intercalate parts)
  | v => some v.display

/-- The renderings of list items that give one. -/
def renderItems : List Value → List String
  | [] => []
  | v :: rest =>
    match render v with
    | some s => s :: renderItems rest
    | none => renderItems rest

end

end Value

end HttpBlueprint
