import HttpBlueprint.Template.Basic
import HttpBlueprint.Template.Placeholder
import HttpBlueprint.Variables
import HttpBlueprint.Value.Display
import HttpBlueprint.Text.Percent
/-!
# Resolving a template

Resolution fills every placeholder of a template from the variables, in this
order: the path, each query value, each header value, the body template. A
placeholder whose name is not bound fails with `missingVariable`, and so does a
path placeholder whose value renders to nothing.

* In the path, a value is percent-encoded as a path segment unless its name is
  already encoded.
* A query or header value that is exactly one placeholder gives one value per
  rendered item of a list, and otherwise the rendering of the value, if any. Any
  other value text gives one value, or none when a placeholder in it renders to
  nothing. Query values are percent-encoded as query components unless the name is
  already encoded; header values are inserted as they are. A key left with no
  values disappears, except a query key that had none to begin with.
* The body template gives the body; a value that renders to nothing gives empty
  text, and `%7B` and `%7D` in its literal text become braces.
-/

namespace HttpBlueprint

/-- The value bound to a placeholder's name, or `missingVariable`. -/
def lookupVar (vars : Variables) (name : String) : Except Error Value :=
  match vars.get? name with
  | some v => .ok v
  | none => .error (.missingVariable name)

/-- Expands a path. -/
def expandPath (path : String) (vars : Variables) (encoded : List String) :
    Except Error String := do
  let r ← expandText path fun name => do
    let v ← lookupVar vars name
    match v.render with
    | none => .error (.missingVariable name)
    | some raw => pure (some (if encoded.contains name then raw else Percent.encodePathSegment raw))
  pure (r.getD "")

/-- Expands a query or header value into zero or more values; `enc` writes the
rendering of the value of a name. -/
def expandValue (s : String) (vars : Variables) (enc : String → String → String) :
    Except Error (List String) :=
  match singleHole? s with
  | some name => do
    match ← lookupVar vars name with
    | .list items => pure ((Value.renderItems items).map (enc name))
    | v => pure (v.render.map (enc name)).toList
  | none => do
    let r ← expandText s fun name => do
      let v ← lookupVar vars name
      pure (v.render.map (enc name))
    pure r.toList

/-- Turns the escapes `%7B` and `%7D` back into braces. -/
def unescapeBraces : List Char → List Char
  | '%' :: '7' :: 'B' :: rest => '{' :: unescapeBraces rest
  | '%' :: '7' :: 'D' :: rest => '}' :: unescapeBraces rest
  | c :: rest => c :: unescapeBraces rest
  | [] => []

/-- Expands a body template. -/
def expandBody (s : String) (vars : Variables) : Except Error String := do
  let r ← expandText s (fun name => do
      let v ← lookupVar vars name
      pure (some (v.render.getD "")))
    (fun lit => String.ofList (unescapeBraces lit.toList))
  pure (r.getD "")

namespace Template

/-- Expands the values of one query key and adds the key if values remain. -/
def resolveQuery (vars : Variables) (encoded : List String) (acc : Multimap String)
    (entry : String × List String) : Except Error (Multimap String) := do
  let (name, values) := entry
  if values.isEmpty then return acc.append name []
  let enc := fun (n raw : String) => if encoded.contains n then raw else Percent.encodeQueryComponent raw
  let expanded ← values.foldlM (fun out v => do pure (out ++ (← expandValue v vars enc))) []
  pure (if expanded.isEmpty then acc else acc.append name expanded)

/-- Expands the values of one header and adds it if values remain. -/
def resolveHeader (vars : Variables) (acc : Multimap (Option String))
    (entry : String × List (Option String)) : Except Error (Multimap (Option String)) := do
  let (name, values) := entry
  let expanded ← values.foldlM (fun out v => do
      match v with
      | some text => pure (out ++ (← expandValue text vars fun _ raw => raw).map some)
      | none => pure (out ++ [none])) []
  pure (if expanded.isEmpty then acc else acc.append name expanded)

/-- Fills every placeholder of a template from the variables. -/
def resolve (t : Template) (vars : Variables) : Except Error Template := do
  let path ← expandPath t.path vars t.alreadyEncoded
  let queries ← t.queries.entries.foldlM (resolveQuery vars t.alreadyEncoded) Multimap.empty
  let headers ← t.headers.entries.foldlM (resolveHeader vars) Multimap.emptyCaseInsensitive
  let body ← match t.bodyTemplate with
    | some bt => some <$> expandBody bt vars
    | none => pure t.body
  pure { t with path, queries, headers, body, resolved := true }

end Template

end HttpBlueprint
