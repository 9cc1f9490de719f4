/-!
# Values

A `Value` is a call argument as the request engine sees it: null, a boolean, a
64-bit integer, a binary64 float, text, a list, a map or a record (both as ordered
lists of named entries, duplicates allowed), or a cookie.

Records carry the name of their type and their fields in declaration order;
`Record.get` finds the first field of a name and `Record.valuesIn` lines the
fields up along a `FieldOrder`, with null for a missing name.
-/

namespace HttpBlueprint

/-- A cookie: a name and a value. -/
structure Cookie where
  name : String
  value : String
  deriving Repr, DecidableEq, Inhabited

/-- A call argument. -/
inductive Value where
  | null
  | bool (b : Bool)
  | int (i : Int)
  | float (x : Float)
  | str (s : String)
  | list (items : List Value)
  | map (entries : List (String × Value))
  /-- A record: the name of its type and its fields in order. -/
  | record (typeName : String) (fields : List (String × Value))
  | cookie (c : Cookie)
  deriving Inhabited

/-- Field names in the order an aggregate declares them. -/
abbrev FieldOrder := List String

/-- A record value taken apart. -/
structure Record where
  typeName : String
  fields : List (String × Value)
  deriving Inhabited

namespace Value

/-- The name of a value's kind, as error messages spell it. -/
def kind : Value → String
  | .null => "null"
  | .bool _ => "bool"
  | .int _ => "integer"
  | .float _ => "float"
  | .str _ => "string"
  | .list _ => "list"
  | .map _ => "map"
  | .record .. => "record"
  | .cookie _ => "cookie"

/-- Whether a value is null. -/
def isNull : Value → Bool
  | .null => true
  | _ => false

/-- The text of a string value. -/
def asStr? : Value → Option String
  | .str s => some s
  | _ => none

/-- The least and greatest 64-bit signed integers. -/
def int64Min : Int := -(Int.pow 2 63)
def int64Max : Int := Int.pow 2 63 - 1

/-- An unsigned 64-bit integer: an integer when it fits the signed range, else its
decimal text. -/
def ofUnsigned (n : Nat) : Value :=
  if (n : Int) ≤ int64Max then .int n else .str (toString n)

/-- A list of texts. -/
def ofStrings (items : List String) : Value := .list (items.map .str)

/-- A map of text entries. -/
def ofStringPairs (entries : List (String × String)) : Value :=
  .map (entries.map fun (k, v) => (k, .str v))

/-- An optional text: null when absent. -/
def ofOption : Option String → Value
  | some s => .str s
  | none => .null

end Value

namespace Record

/-- The record as a value. -/
def toValue (r : Record) : Value := .record r.typeName r.fields

/-- The value of the first field of a name. -/
def get? (r : Record) (name : String) : Option Value :=
  (r.fields.find? (·.1 == name)).map (·.2)

/-- The values of the named fields in order, null for a name the record lacks. -/
def valuesIn (r : Record) (order : FieldOrder) : List Value :=
  order.map fun name => (r.get? name).getD .null

end Record

end HttpBlueprint
