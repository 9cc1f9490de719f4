import HttpBlueprint.Url.Host
/-!
# URLs

A URL as the URL standard normalises it: a lower-case scheme, optional
credentials, an optional host and port, a path that is either a list of segments
or, for a URL that cannot be a base, one opaque text, and an optional query and
fragment. `Url.text` writes it back; the default port of a special scheme is
never kept.
-/

namespace HttpBlueprint.Url

/-- The schemes with a default port, and the port. -/
def defaultPort : String → Option Nat
  | "http" => some 80
  | "https" => some 443
  | "ws" => some 80
  | "wss" => some 443
  | "ftp" => some 21
  | _ => none

/-- Whether a scheme is special. -/
def isSpecial (scheme : String) : Bool :=
  (defaultPort scheme).isSome || scheme == "file"

/-- The path of a URL. -/
inductive Path where
  /-- Segments, each written after a `/`. -/
  | segments (parts : List String)
  /-- The path of a URL that cannot be a base. -/
  | single (text : String)
  deriving Repr, DecidableEq, Inhabited

/-- The text of a path. -/
def Path.text : Path → String
  | .segments parts => String.join (parts.map ("/" ++ ·))
  | .single t => t

end HttpBlueprint.Url

namespace HttpBlueprint

/-- A normalised URL. -/
structure Url where
  scheme : String
  username : String := ""
  password : String := ""
  host : Option Url.Host := none
  port : Option Nat := none
  path : Url.Path := .segments []
  query : Option String := none
  fragment : Option String := none
  deriving Repr, DecidableEq, Inhabited

namespace Url

/-- The credentials and `@`, if there are any. -/
def credentials (u : Url) : String :=
  if u.username.isEmpty && u.password.isEmpty then ""
  else u.username ++ (if u.password.isEmpty then "" else ":" ++ u.password) ++ "@"

/-- The text of a URL. Without a host, a path whose first segment is empty starts
with `/.` so that it is not read as a host. -/
def text (u : Url) : String :=
  let authority := match u.host, u.path with
    | some h, _ => "//" ++ u.credentials ++ h.text ++ (u.port.map (":" ++ toString ·)).getD ""
    | none, .segments ("" :: _ :: _) => "/."
    | none, _ => ""
  u.scheme ++ ":" ++ authority ++ u.path.text ++ (u.query.map ("?" ++ ·)).getD "" ++
    (u.fragment.map ("#" ++ ·)).getD ""

end Url

end HttpBlueprint
