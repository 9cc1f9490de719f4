import HttpBlueprint.Http.Method
import HttpBlueprint.Multimap
import HttpBlueprint.Text.Blank
import HttpBlueprint.Text.Split
/-!
# Request templates

A request template is the blueprint of a call: a method, an optional target (the
base URL), a path with `{name}` placeholders, query parameters and headers as
ordered multimaps, an optional body and body template, the names whose values are
already percent-encoded, and whether it has been resolved.

The field defaults are those of the derived `Default`: no target, an empty path, no
queries or headers, nothing encoded, not resolved, and maps that compare keys exactly,
the header map included. `Template.ofUri`, the constructor, makes the header map compare
names ignoring ASCII case instead. It splits a URI at its first `?`: the query part is cut
at `&`, empty pieces are skipped, and each piece is a name and a value split at the first
`=`, or a name alone with no values. `Template.parse` reads a request line
`VERB /path`. `Template.url` writes the target without trailing slashes, the path,
and the query string after `?` when it is not empty.
-/

namespace HttpBlueprint

/-- Inserts a name into a sorted list of distinct names. -/
def insertName (n : String) : List String → List String
  | [] => [n]
  | m :: rest => if n = m then m :: rest else if n < m then n :: m :: rest else m :: insertName n rest

/-- A request template. -/
structure Template where
  method : Method := .get
  target : Option String := none
  path : String := ""
  queries : Multimap String := Multimap.empty
  /-- Headers; the default map compares names exactly, the constructor's ignores case. -/
  headers : Multimap (Option String) := Multimap.empty
  body : Option String := none
  bodyTemplate : Option String := none
  /-- Names whose values are inserted without percent-encoding, sorted. -/
  alreadyEncoded : List String := []
  resolved : Bool := false
  deriving Inhabited

namespace Template

/-- Adds one query piece `name=value` or `name`. -/
def addQueryPiece (qs : Multimap String) (piece : String) : Multimap String :=
  match Text.splitOnce piece '=' with
  | some (name, value) => qs.append name [value]
  | none => qs.append piece []

/-- The query parameters of a query text. -/
def queriesOf (query : String) : Multimap String :=
  ((Text.splitAll query '&').filter (· ≠ "")).foldl addQueryPiece Multimap.empty

/-- A template for a method and a URI with an optional query. -/
def ofUri (m : Method) (uri : String) : Template :=
  let (path, query) := (Text.splitOnce uri '?').getD (uri, "")
  { method := m, path, queries := queriesOf query, headers := Multimap.emptyCaseInsensitive }

/-- Reads a request line: a method name, blank characters, and a URI. -/
def parse (line : String) : Except Error Template :=
  match Text.splitOnceBy Blank.isBlank (Blank.trim line) with
  | none => .error (.invalidArgument ("expected \"VERB /path\", got \"" ++ line ++ "\""))
  | some (verb, uri) => do
    let m ← Method.parse verb
    pure (ofUri m (Blank.trim uri))

/-- Appends a query value. -/
def query (t : Template) (name value : String) : Template :=
  { t with queries := t.queries.append name [value] }

/-- Appends a header value. -/
def header (t : Template) (name value : String) : Template :=
  { t with headers := t.headers.append name [some value] }

/-- Sets the body template. -/
def withBodyTemplate (t : Template) (s : String) : Template :=
  { t with bodyTemplate := some s }

/-- Sets the target. -/
def withTarget (t : Template) (s : String) : Template :=
  { t with target := some s }

/-- Sets the body. -/
def withBody (t : Template) (s : String) : Template :=
  { t with body := some s }

/-- Replaces a header with one value. -/
def setHeader (t : Template) (name value : String) : Template :=
  { t with headers := t.headers.replace name [some value] }

/-- Marks names as already percent-encoded. -/
def markEncoded (t : Template) (names : List String) : Template :=
  { t with alreadyEncoded := names.foldl (fun acc n => insertName n acc) t.alreadyEncoded }

/-- The query string: `name=value` for every value, `name` for a name without
values, joined by `&`. -/
def queryString (t : Template) : String :=
  "&".intercalate (t.queries.entries.flatMap fun (name, values) =>
    if values.isEmpty then [name] else values.map (name ++ "=" ++ ·))

/-- Drops trailing slashes. -/
def dropTrailingSlashes (s : String) : String :=
  String.ofList (s.toList.reverse.dropWhile (· == '/')).reverse

/-- The URL of a template. -/
def url (t : Template) : String :=
  let base := (t.target.map dropTrailingSlashes).getD "" ++ t.path
  let q := t.queryString
  if q.isEmpty then base else base ++ "?" ++ q

/-- The method and URL. -/
def display (t : Template) : String := t.method.name ++ " " ++ t.url

end Template

end HttpBlueprint
