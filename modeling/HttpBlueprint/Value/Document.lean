import HttpBlueprint.Value.Json
/-!
# Documents held in memory

A JSON library holds a document in memory as a tree whose objects are maps sorted by
key, each key once, and whose numbers are 64-bit integers or finite floats. Two
conversions go between such documents and values, besides `Value.ofJsonDoc`:

* `JsonDoc.toJson` writes a document as compact JSON text, each number and string as
  `Value.toJson` writes it and each object's members in order;
* `Value.toJsonDoc` is the document a value serializes to: null, booleans, integers,
  strings and lists as they are, a float as itself when finite and as null otherwise,
  a cookie as the text `name=value`, and a map or a record as an object whose members
  are sorted by key, the last of equal keys winning.
-/

namespace HttpBlueprint

namespace JsonDoc

mutual

/-- The compact JSON text of a document. -/
def toJson : JsonDoc → String
  | .null => "null"
  | .bool b => if b then "true" else "false"
  | .int i => toString i
  | .float x => (Decimal.Layout.json.write x).getD "null"
  | .str s => JsonString.quote s
  | .arr items => "[" ++ itemsJson items ++ "]"
  | .obj members => "\x7b" ++ membersJson members ++ "\x7d"

/-- Array items joined by `,`. -/
def itemsJson : List JsonDoc → String
  | [] => ""
  | [d] => toJson d
  | d :: rest => toJson d ++ "," ++ itemsJson rest

/-- Object members joined by `,`. -/
def membersJson : List (String × JsonDoc) → String
  | [] => ""
  | [(k, d)] => JsonString.quote k ++ ":" ++ toJson d
  | (k, d) :: rest => JsonString.quote k ++ ":" ++ toJson d ++ "," ++ membersJson rest

end

end JsonDoc

namespace Value

mutual

/-- The document a value serializes to. -/
def toJsonDoc : Value → JsonDoc
  | .null => .null
  | .bool b => .bool b
  | .int i => .int i
  | .float x => if (Decimal.Binary64.ofFloat x).isFinite then .float x else .null
  | .str s => .str s
  | .list items => .arr (toJsonDocs items)
  | .map entries => .obj (sortByKey (toJsonMembers entries))
  | .record _ fields => .obj (sortByKey (toJsonMembers fields))
  | .cookie c => .str c.display

/-- The documents of list items. -/
def toJsonDocs : List Value → List JsonDoc
  | [] => []
  | v :: rest => toJsonDoc v :: toJsonDocs rest

/-- The members of map entries, in order. -/
def toJsonMembers : List (String × Value) → List (String × JsonDoc)
  | [] => []
  | (k, v) :: rest => (k, toJsonDoc v) :: toJsonMembers rest

end

end Value

end HttpBlueprint
