import HttpBlueprint.Template.Basic
import HttpBlueprint.Value.Display
import HttpBlueprint.Text.Percent
/-!
# Query and header maps

A query map or header map argument overrides entries of a resolved template.
A map value gives its entries; any other value is handed to a query-map encoder.
`QueryMapEncoder.fields` reads null as no entries, a map as its entries, a record
as its fields that are not null, and refuses anything else.

For a query map, the texts of the values (one per list item, nulls dropped) are
percent-encoded as query components and replace the entry of the encoded name; a
name left with no values is skipped. For a header map, the texts (a null as no
value) replace the header of the same name in any ASCII case, always.
-/

namespace HttpBlueprint

/-- Turns a map argument into named entries. -/
structure QueryMapEncoder where
  encode : Value → Except Error (List (String × Value))

/-- Reads maps and the non-null fields of records. -/
def QueryMapEncoder.fields : QueryMapEncoder :=
  ⟨fun v => match v with
    | .null => .ok []
    | .map entries => .ok entries
    | .record _ fields => .ok (fields.filter (!·.2.isNull))
    | other => .error (.encodeMsg ("cannot read fields of a " ++ other.kind ++ " value"))⟩

/-- The entries of a map argument. -/
def mapEntries (v : Value) (q : QueryMapEncoder) : Except Error (List (String × Value)) :=
  match v with
  | .map entries => .ok entries
  | other => q.encode other

/-- The text of a value, none for null. -/
def textOf (v : Value) : Option String :=
  if v.isNull then none else some v.display

/-- The texts of an entry's value: one per list item, or one. -/
def textsOf : Value → List (Option String)
  | .list items => items.map textOf
  | v => [textOf v]

namespace Template

/-- Overrides query parameters from a query map argument. -/
def mergeQueryMap (t : Template) (v : Value) (q : QueryMapEncoder) : Except Error Template := do
  let entries ← mapEntries v q
  pure (entries.foldl (fun t (name, value) =>
    let values := (textsOf value).filterMap id |>.map Percent.encodeQueryComponent
    if values.isEmpty then t
    else { t with queries := t.queries.replace (Percent.encodeQueryComponent name) values }) t)

/-- Overrides headers from a header map argument. -/
def mergeHeaderMap (t : Template) (v : Value) (q : QueryMapEncoder) : Except Error Template := do
  let entries ← mapEntries v q
  pure (entries.foldl (fun t (name, value) =>
    { t with headers := t.headers.replace name (textsOf value) }) t)

end Template

end HttpBlueprint
