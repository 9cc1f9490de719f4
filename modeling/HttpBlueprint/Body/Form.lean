import HttpBlueprint.Value.Display
import HttpBlueprint.Error
import HttpBlueprint.Text.Percent
/-!
# Form bodies

The `application/x-www-form-urlencoded` text of a value. Only a map or a record
has one: each entry in order gives `name=value`, with both parts form-encoded and
the pairs joined by `&`. A null value gives no pair, a list gives one pair per
item that is not null, and a list, map or record inside it is refused. Scalars are
written as text, numbers in the form layout. A top-level list is refused at its
first item that is not null. Null has the empty form; any other top-level value is
refused outright.
-/

namespace HttpBlueprint.Form

/-- The text of a scalar field value, `none` for null. -/
def scalarText : Value → Except FormError (Option String)
  | .null => .ok none
  | .bool b => .ok (some (if b then "true" else "false"))
  | .int i => .ok (some (toString i))
  | .float x => .ok (some ((Decimal.Layout.form.write x).getD ""))
  | .str s => .ok (some s)
  | .cookie c => .ok (some c.display)
  | .list _ | .map _ | .record .. => .error .unsupportedValue

/-- The texts a field value gives: one per item of a list, none for null. -/
def fieldTexts : Value → Except FormError (List String)
  | .list items => items.foldlM (fun acc v => do pure (acc ++ (← scalarText v).toList)) []
  | v => do pure (← scalarText v).toList

/-- The encoded pairs of named entries. -/
def entryPairs (entries : List (String × Value)) : Except FormError (List String) :=
  entries.foldlM (fun acc (k, v) => do
    let texts ← fieldTexts v
    pure (acc ++ texts.map fun t => Percent.encodeForm k ++ "=" ++ Percent.encodeForm t)) []

/-- The form text of a value. -/
def encode : Value → Except FormError String
  | .map entries => do pure ("&".intercalate (← entryPairs entries))
  | .record _ fields => do pure ("&".intercalate (← entryPairs fields))
  | .list items => if items.all Value.isNull then .ok "" else .error .unsupportedPair
  | .null => .ok ""
  | _ => .error .topLevel

end HttpBlueprint.Form
