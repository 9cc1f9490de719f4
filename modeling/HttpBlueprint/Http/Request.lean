import HttpBlueprint.Template.Basic
import HttpBlueprint.Url.Parse
/-!
# Requests

A resolved template becomes a `Request`: its method, its URL read and normalised,
its headers as name and value pairs (a header without a value is left out), and
its body. A template that was never resolved is refused, and so is a URL that
does not read.

`Request.toMessage` checks the request for the wire. A header name must be a
non-empty token and is sent in lower case; a header value may hold tabs, visible
ASCII and bytes from 0x80 up, but no other control. The first bad header is
reported, a bad name under its own spelling and a bad value under the lower-case
name. The URI is the URL without its fragment; a URL with no authority has to be
an authority on its own.
-/

namespace HttpBlueprint

/-- A request ready to be sent. -/
structure Request where
  method : Method
  url : Url
  headers : List (String × String)
  body : Option String
  deriving Inhabited

/-- A request as it goes on the wire. -/
structure Message where
  method : Method
  uri : String
  headers : List (String × String)
  body : String
  deriving Inhabited

/-- The request of a resolved template. -/
def Template.toRequest (t : Template) : Except Error Request := do
  if !t.resolved then
    throw (.invalidArgument "request template must be resolved before it is sent")
  let url ← (Url.parse t.url).mapError .invalidUrl
  let headers := t.headers.entries.flatMap fun (name, values) =>
    values.filterMap id |>.map (name, ·)
  pure { method := t.method, url, headers, body := t.body }

namespace Request

/-- The first value of a header, ignoring ASCII case in its name. -/
def header? (r : Request) (name : String) : Option String :=
  (r.headers.find? fun h => keyMatches true h.1 name).map (·.2)

end Request

/-- Whether a character may stand in a header name. -/
def isTokenChar (c : Char) : Bool :=
  c.toNat < 0x80 && (c.isAlphanum || "!#$%&'*+-.^_`|~".contains c)

/-- Whether a byte may stand in a header value. -/
def isValueByte (b : UInt8) : Bool :=
  (b ≥ 0x20 && b != 0x7F) || b == 0x09

/-- Checks one header and gives its name in lower case. -/
def checkHeader (name value : String) : Except Error (String × String) := do
  if name.isEmpty || !name.all isTokenChar then
    throw (.invalidHeader (name ++ ": invalid HTTP header name"))
  let lower := name.map Char.toLower
  if !value.toUTF8.toList.all isValueByte then
    throw (.invalidHeader (lower ++ ": failed to parse header value"))
  pure (lower, value)

/-- Whether a character may stand in a URI authority as it is. -/
def isAuthorityChar (c : Char) : Bool :=
  c.isAlphanum || "!$&'()*+,-.;=_~".contains c

/-- What a scan of a URI authority has seen so far: colons since the last `@` or
`]`, whether a bracket was opened or closed, and a `%` since the last `@` or `]`. -/
structure AuthorityScan where
  colons : Nat := 0
  opened : Bool := false
  closed : Bool := false
  percent : Bool := false

/-- One character of an authority. A ninth colon, a second `[`, a `[` after a
`%`, or a `]` without its `[` is a bad authority; a character outside the URI
alphabet is refused as such. -/
def AuthorityScan.step (s : AuthorityScan) (c : Char) : Except String AuthorityScan :=
  if c == ':' then
    if s.colons ≥ 8 then .error "invalid authority" else .ok { s with colons := s.colons + 1 }
  else if c == '[' then
    if s.percent || s.opened then .error "invalid authority" else .ok { s with opened := true }
  else if c == ']' then
    if !s.opened || s.closed then .error "invalid authority"
    else .ok { s with closed := true, colons := 0, percent := false }
  else if c == '@' then .ok { s with colons := 0, percent := false }
  else if c == '%' then .ok { s with percent := true }
  else if isAuthorityChar c then .ok s
  else .error "invalid uri character"

/-- Why an authority is refused on the wire: a bad character or bracket, an
unclosed bracket, a second colon outside brackets, nothing after the last `@`, or
a `%` in the host. -/
def authorityFailure (auth : List Char) : Option String :=
  match auth.foldlM AuthorityScan.step {} with
  | .error e => some e
  | .ok s =>
    if s.opened != s.closed then some "invalid authority"
    else if s.colons > 1 then some "invalid authority"
    else if auth.getLast? == some '@' then some "invalid authority"
    else if s.percent then some "invalid authority"
    else none

/-- Whether a character ends a URI authority. -/
def endsUriAuthority (c : Char) : Bool :=
  c == '/' || c == '?' || c == '#'

/-- The scheme of a URI and what follows its `://`, if it has both. -/
def schemeAndRest (cs : List Char) : Option (List Char × List Char) :=
  match cs.span (· != ':') with
  | (scheme, ':' :: '/' :: '/' :: rest) => some (scheme, rest)
  | _ => none

/-- The wire form of a URL: scheme, authority, path (at least `/`) and query. A
URL without `://` must be an authority and nothing else. -/
def wireUri (text : String) : Except Error String := do
  if text.utf8ByteSize > 65534 then throw (.invalidArgument "uri too long")
  let cs := text.toList
  match schemeAndRest cs with
  | some (scheme, rest) =>
    if scheme.length > 64 then throw (.invalidArgument "scheme too long")
    if rest.isEmpty then throw (.invalidArgument "empty string")
    let (auth, pq) := rest.span (!endsUriAuthority ·)
    if let some e := authorityFailure auth then throw (.invalidArgument e)
    if auth.isEmpty then throw (.invalidArgument "invalid format")
    -- the fragment never goes on the wire
    let pq := pq.takeWhile (· != '#')
    let pq := match pq with
      | '?' :: _ => '/' :: pq
      | [] => ['/']
      | _ => pq
    pure (String.ofList (scheme ++ "://".toList ++ auth ++ pq))
  | none =>
    let (auth, rest) := cs.span (!endsUriAuthority ·)
    if let some e := authorityFailure auth then throw (.invalidArgument e)
    if !rest.isEmpty then throw (.invalidArgument "invalid format")
    pure (String.ofList auth)

/-- The request as it goes on the wire. -/
def Request.toMessage (r : Request) : Except Error Message := do
  -- headers are checked before the URI, so a bad header is reported first
  let headers ← r.headers.mapM fun (n, v) => checkHeader n v
  let uri ← wireUri r.url.text
  pure { method := r.method, uri, headers, body := r.body.getD "" }

end HttpBlueprint
