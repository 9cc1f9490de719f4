import HttpBlueprint.Error
/-!
# Request methods

The seven methods a request template can carry. A method is read from its name
in any ASCII case and written in upper case.
-/

namespace HttpBlueprint

/-- A request method. -/
inductive Method where
  | get | post | put | delete | patch | head | options
  deriving Repr, DecidableEq, Inhabited

namespace Method

/-- The name of a method. -/
def name : Method → String
  | .get => "GET"
  | .post => "POST"
  | .put => "PUT"
  | .delete => "DELETE"
  | .patch => "PATCH"
  | .head => "HEAD"
  | .options => "OPTIONS"

/-- All methods. -/
def all : List Method := [.get, .post, .put, .delete, .patch, .head, .options]

/-- Reads a method name, ignoring ASCII case. -/
def parse (s : String) : Except Error Method :=
  let upper := s.map Char.toUpper
  match all.find? (·.name == upper) with
  | some m => .ok m
  | none => .error (.invalidArgument ("unsupported HTTP method: " ++ upper))

end Method

end HttpBlueprint
