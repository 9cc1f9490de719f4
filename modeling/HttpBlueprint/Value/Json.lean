import HttpBlueprint.Value.Display
import HttpBlueprint.Text.JsonString
import HttpBlueprint.Decimal.Read
/-!
# Values and JSON

`Value.toJson` writes a value as compact JSON text: maps and records become objects
with their entries in order (duplicates kept), a cookie becomes the string
`name=value`, and a float NaN or infinity becomes `null`.

`JsonDoc` is a JSON document as read from text. Its integers are those that fit
64 bits, signed or unsigned; other numbers are floats. `Value.ofJsonDoc` turns a
document into a value: an integer in the signed range stays an integer, any other
number becomes a float, and an object becomes a map sorted by key in which the
last of several equal keys wins.
-/

namespace HttpBlueprint

namespace Value

mutual

/-- The compact JSON text of a value. -/
def toJson : Value → String
  | .null => "null"
  | .bool b => if b then "true" else "false"
  | .int i => toString i
  | .float x => (Decimal.Layout.json.write x).getD "null"
  | .str s => JsonString.quote s
  | .list items => "[" ++ itemsJson items ++ "]"
  | .map entries => "\x7b" ++ entriesJson entries ++ "\x7d"
  | .record _ fields => "\x7b" ++ entriesJson fields ++ "\x7d"
  | .cookie c => JsonString.quote c.display

/-- Array items joined by `,`. -/
def itemsJson : List Value → String
  | [] => ""
  | [v] => toJson v
  | v :: rest => toJson v ++ "," ++ itemsJson rest

/-- Object members joined by `,`. -/
def entriesJson : List (String × Value) → String
  | [] => ""
  | [(k, v)] => JsonString.quote k ++ ":" ++ toJson v
  | (k, v) :: rest => JsonString.quote k ++ ":" ++ toJson v ++ "," ++ entriesJson rest

end

end Value

/-- A JSON document. -/
inductive JsonDoc where
  | null
  | bool (b : Bool)
  /-- An integer within the 64-bit signed or unsigned range. -/
  | int (i : Int)
  | float (x : Float)
  | str (s : String)
  | arr (items : List JsonDoc)
  | obj (entries : List (String × JsonDoc))
  deriving Inhabited

namespace JsonDoc

/-- Whether a number written without point or exponent is kept as an integer. -/
def fitsWord (i : Int) : Bool := -(Int.pow 2 63) ≤ i && i < Int.pow 2 64

/-- The document of a JSON number literal: an integer literal in the 64-bit range
is an integer, any other literal a float rounded to nearest. A negative zero has
no integer form, so `-0` is the float negative zero. -/
def ofNumber? (text : String) : Option JsonDoc :=
  let cs := text.toList
  let (negative, body) := match cs with
    | '-' :: rest => (true, rest)
    | _ => (false, cs)
  if !body.isEmpty && body.all Char.isDigit then
    let n : Nat := Decimal.digitsValue body
    let i : Int := if negative then -(n : Int) else n
    if fitsWord i && !(negative && n == 0) then some (.int i)
    else (Decimal.read? text).map .float
  else (Decimal.read? text).map .float

end JsonDoc

/-- Inserts into a list sorted by key, replacing the value of an equal key. -/
def insertSorted {α : Type} (k : String) (v : α) : List (String × α) → List (String × α)
  | [] => [(k, v)]
  | (k', v') :: rest =>
    if k = k' then (k, v) :: rest
    else if k < k' then (k, v) :: (k', v') :: rest
    else (k', v') :: insertSorted k v rest

/-- Entries sorted by key, each inserted in turn, so the last of equal keys wins: a map
sorted by key, as the JSON library holds an object. -/
def sortByKey {α : Type} (entries : List (String × α)) : List (String × α) :=
  entries.foldl (fun acc (k, v) => insertSorted k v acc) []

/-- The float nearest an integer. -/
def floatOfInt (i : Int) : Float :=
  Float.ofBits (Decimal.roundToBits (i < 0) i.natAbs 1)

namespace Value

mutual

/-- The value of a JSON document. -/
def ofJsonDoc : JsonDoc → Value
  | .null => .null
  | .bool b => .bool b
  | .int i => if int64Min ≤ i ∧ i ≤ int64Max then .int i else .float (floatOfInt i)
  | .float x => .float x
  | .str s => .str s
  | .arr items => .list (ofJsonDocs items)
  | .obj entries => .map (sortByKey (ofJsonEntries entries))

/-- The values of array items. -/
def ofJsonDocs : List JsonDoc → List Value
  | [] => []
  | d :: rest => ofJsonDoc d :: ofJsonDocs rest

/-- The values of object members, in document order. -/
def ofJsonEntries : List (String × JsonDoc) → List (String × Value)
  | [] => []
  | (k, d) :: rest => (k, ofJsonDoc d) :: ofJsonEntries rest

end

end Value

end HttpBlueprint
