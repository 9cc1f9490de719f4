import HttpBlueprint.Value.Display
import HttpBlueprint.Error
/-!
# Expanders

An expander turns one argument value into the text bound to its names.
`Expander.toText` writes a value's text; `Expander.cookie name` takes a string as
it is, or the value of a cookie of that name, and refuses a cookie of another name
or any other kind of value.
-/

namespace HttpBlueprint

/-- Turns an argument value into text. -/
structure Expander where
  expand : Value → Except Error String

namespace Expander

/-- The text of the value. -/
def toText : Expander := ⟨fun v => .ok v.display⟩

/-- The value of a cookie of the given name, or a string as it is. -/
def cookie (name : String) : Expander :=
  ⟨fun v => match v with
    | .str s => .ok s
    | .cookie c =>
      if c.name == name then .ok c.value
      else .error (.invalidArgument ("cookie name '" ++ c.name ++ "' does not match expected name '" ++ name ++ "'"))
    | other =>
      .error (.invalidArgument ("cookie '" ++ name ++ "' must be a string or a cookie, got a " ++ other.kind ++ " value"))⟩

end Expander

end HttpBlueprint
