import HttpBlueprint.Body.Form
import HttpBlueprint.Value.Json
import HttpBlueprint.Template.Basic
/-!
# Body encoders

An encoder writes a payload into a template as its body. What it is asked to write
is described by a `BodyType`: any value, a value of a named type, a form map, or
the whole argument list.

* `Encoder.json` writes the payload's JSON text and sets `Content-Type` to
  `application/json`.
* `Encoder.form d` writes a form map as form text with `Content-Type`
  `application/x-www-form-urlencoded`, and hands every other body to `d`.

Setting `Content-Type` replaces any header of that name in any ASCII case.
-/

namespace HttpBlueprint

/-- What a body payload is. -/
inductive BodyType where
  | any
  | named (name : String)
  | formMap
  | arguments
  deriving Repr, DecidableEq, Inhabited

/-- The two content types the encoders set. -/
inductive ContentType where
  | json
  | formUrlEncoded
  deriving Repr, DecidableEq, Inhabited

/-- The text of a content type. -/
def ContentType.text : ContentType → String
  | .json => "application/json"
  | .formUrlEncoded => "application/x-www-form-urlencoded"

/-- Writes a payload into a template. -/
structure Encoder where
  encode : Value → BodyType → Template → Except Error Template

namespace Encoder

/-- Sets the content type and the body. -/
def setBody (t : Template) (ct : ContentType) (body : String) : Template :=
  (t.setHeader "Content-Type" ct.text).withBody body

/-- Writes any payload as JSON. -/
def json : Encoder :=
  ⟨fun payload _ t => .ok (setBody t .json payload.toJson)⟩

/-- Writes form maps as form text and hands every other body to a delegate. -/
def form (delegate : Encoder) : Encoder :=
  ⟨fun payload bt t =>
    if bt == .formMap then
      match Form.encode payload with
      | .ok text => .ok (setBody t .formUrlEncoded text)
      | .error e => .error (.formSerialization e)
    else delegate.encode payload bt t⟩

end Encoder

end HttpBlueprint
