import HttpBlueprint.Url.Basic
/-!
# Reading URLs

`Url.parse` reads an absolute URL the way the URL standard does. Controls and
spaces at either end are dropped, and tabs and newlines anywhere. The scheme is
an ASCII letter followed by letters, digits, `+`, `-` or `.`, then `:`; text
without one is a relative URL, which needs a base and is refused.

After a special scheme any run of slashes and backslashes leads to the authority:
credentials up to the last `@`, the host, and a port of at most 65535. The path
is cut at slashes (and backslashes, for a special scheme) into segments, each
percent-encoded; a segment `.` is dropped and `..` drops the one before it
(their `%2e` spellings too), and a trailing one leaves an empty last segment. The
query and the fragment are percent-encoded with their own sets.
-/

namespace HttpBlueprint.Url

/-- Drops controls and spaces at both ends, then every tab and newline. -/
def clean (s : String) : List Char :=
  let cs := ((s.toList.dropWhile (·.toNat ≤ 0x20)).reverse.dropWhile (·.toNat ≤ 0x20)).reverse
  cs.filter fun c => c != '\t' && c != '\n' && c != '\r'

/-- Whether a character may follow the first letter of a scheme. -/
def isSchemeChar (c : Char) : Bool :=
  c.isAlphanum || c == '+' || c == '-' || c == '.'

/-- The scheme, lower-cased, and the text after its `:`. -/
def splitScheme (cs : List Char) : Option (String × List Char) :=
  match cs with
  | c :: _ =>
    if !c.isAlpha then none else
    match cs.span isSchemeChar with
    | (name, ':' :: rest) => some (String.ofList (name.map Char.toLower), rest)
    | _ => none
  | [] => none

/-- Cuts a list at every element that passes a test. -/
def splitWhere (p : Char → Bool) : List Char → List (List Char)
  | [] => [[]]
  | c :: rest =>
    if p c then [] :: splitWhere p rest
    else match splitWhere p rest with
      | first :: more => (c :: first) :: more
      | [] => [[c]]

/-- Whether an encoded segment is `.`. -/
def isSingleDot (seg : String) : Bool :=
  seg == "." || seg.map Char.toLower == "%2e"

/-- Whether an encoded segment is `..`. -/
def isDoubleDot (seg : String) : Bool :=
  let s := seg.map Char.toLower
  s == ".." || s == ".%2e" || s == "%2e." || s == "%2e%2e"

/-- Whether a segment is a Windows drive letter: an ASCII letter, then `:` or `|`. -/
def isDriveLetter (seg : String) : Bool :=
  match seg.toList with
  | [a, b] => a.isAlpha && (b == ':' || b == '|')
  | _ => false

/-- A drive letter written with `:`. -/
def normalizeDrive (seg : String) : String :=
  String.ofList (seg.toList.take 1 ++ [':'])

/-- Adds one segment to a path; `last` says that no slash follows it. A `..`
removes the segment before it, unless that is a drive letter. -/
def pushSegment (path : List String) (seg : String) (last : Bool) : List String :=
  if isDoubleDot seg then
    let kept := match path.getLast? with
      | some prev => if isDriveLetter prev then path else path.dropLast
      | none => path
    if last then kept ++ [""] else kept
  else if isSingleDot seg then
    if last then path ++ [""] else path
  else path ++ [seg]

/-- The encoded segments of path text, each with whether it is the last. -/
def rawSegments (special : Bool) (cs : List Char) : List (String × Bool) :=
  let raw := splitWhere (fun c => c == '/' || (special && c == '\\')) cs
  let n := raw.length
  raw.zipIdx.map fun (seg, i) => (Percent.encode Percent.path (String.ofList seg), i + 1 == n)

/-- The segments of path text (after its leading slash). -/
def pathSegments (special : Bool) (cs : List Char) : List String :=
  (rawSegments special cs).foldl (fun path (seg, last) => pushSegment path seg last) []

/-- Adds one segment to the path of a `file` URL, and records whether a drive letter
started the path: such a letter is written with `:`. -/
def pushFileSegment (acc : List String × Bool) (seg : String) (last : Bool) :
    List String × Bool :=
  if acc.1.isEmpty && isDriveLetter seg then (acc.1 ++ [normalizeDrive seg], true)
  else (pushSegment acc.1 seg last, acc.2)

/-- Drops empty leading segments while another segment follows. -/
def dropLeadingEmpty : List String → List String
  | "" :: rest@(_ :: _) => dropLeadingEmpty rest
  | path => path

/-- The segments of the path of a `file` URL, and whether a drive letter starts it. -/
def fileSegments (cs : List Char) : List String × Bool :=
  let (path, drive) := (rawSegments true cs).foldl
    (fun acc (seg, last) => pushFileSegment acc seg last) ([], false)
  (dropLeadingEmpty path, drive)

/-- The query and fragment that follow a path. -/
def queryAndFragment (special : Bool) (cs : List Char) : Option String × Option String :=
  let (beforeHash, hash) := cs.span (· != '#')
  let query := match beforeHash with
    | '?' :: q =>
      some (Percent.encode (if special then Percent.specialQuery else Percent.query) (String.ofList q))
    | _ => none
  let fragment := match hash with
    | '#' :: f => some (Percent.encode Percent.fragment (String.ofList f))
    | _ => none
  (query, fragment)

/-- Whether a character ends the authority. -/
def endsAuthority (special : Bool) (c : Char) : Bool :=
  c == '/' || c == '?' || c == '#' || (special && c == '\\')

/-- Splits credentials at the last `@`: the credentials, if any, and the rest. -/
def splitCredentials (auth : List Char) : Option (List Char) × List Char :=
  match (auth.zipIdx.filter (·.1 == '@')).getLast? with
  | some (_, i) => (some (auth.take i), auth.drop (i + 1))
  | none => (none, auth)

/-- Splits host text from port text at the first `:` outside brackets. -/
def splitPort : List Char → Bool → List Char × Option (List Char)
  | [], _ => ([], none)
  | c :: rest, inBrackets =>
    if c == ':' && !inBrackets then ([], some rest)
    else
      let inBrackets := if c == '[' then true else if c == ']' then false else inBrackets
      let (h, p) := splitPort rest inBrackets
      (c :: h, p)

/-- Reads a port: digits only, at most 65535; no digits means no port. -/
def parsePort (scheme : String) (cs : List Char) : Except ParseError (Option Nat) := do
  if !cs.all Char.isDigit then throw .invalidPort
  if cs.isEmpty then return none
  let n := cs.foldl (fun acc c => 10 * acc + (c.toNat - 0x30)) 0
  if n > 65535 then throw .invalidPort
  return if defaultPort scheme == some n then none else some n

/-- Reads an authority into credentials, host and port; `more` says that text
follows the authority. A port ends at a backslash too, and what follows it is
handed back to start the path (this only happens for a scheme that is not special,
whose authority a backslash does not end). -/
def parseAuthority (scheme : String) (special : Bool) (auth : List Char) (more : Bool) (u : Url) :
    Except ParseError (Url × List Char) := do
  let (creds, hostPort) := splitCredentials auth
  -- a lone `@` with nothing after the authority leaves no authority at all
  if creds == some [] && hostPort.isEmpty && more then throw .emptyHost
  let (user, pass) := match creds with
    | some cs =>
      match cs.span (· != ':') with
      | (name, ':' :: pw) => (name, pw)
      | (name, _) => (name, [])
    | none => ([], [])
  let username := Percent.encode Percent.userinfo (String.ofList user)
  let password := Percent.encode Percent.userinfo (String.ofList pass)
  let (hostText, portText) := splitPort hostPort false
  let (portText, leftover) := match portText with
    | some p => let (digits, after) := p.span (· != '\\'); (some digits, after)
    | none => (none, [])
  let host ← if special then
      if hostText.isEmpty then throw .emptyHost else parseSpecialHost (String.ofList hostText)
    else
      if hostText.isEmpty && portText.isSome then throw .emptyHost
      else parseOtherHost (String.ofList hostText)
  if host == .verbatim "" && !(username.isEmpty && password.isEmpty) then throw .emptyHost
  let port ← match portText with
    | some p => parsePort scheme p
    | none => pure none
  pure ({ u with username, password, host := some host, port }, leftover)

/-- Reads what follows the scheme of a special scheme other than `file`. -/
def parseSpecial (scheme : String) (cs : List Char) : Except ParseError Url := do
  let cs := cs.dropWhile fun c => c == '/' || c == '\\'
  let (auth, rest) := cs.span (!endsAuthority true ·)
  let (u, _) ← parseAuthority scheme true auth (!rest.isEmpty) { scheme }
  let (pathPart, tail) := rest.span fun c => c != '?' && c != '#'
  let pathPart := match pathPart with
    | c :: more => if c == '/' || c == '\\' then more else pathPart
    | [] => []
  let (query, fragment) := queryAndFragment true tail
  pure { u with path := .segments (pathSegments true pathPart), query, fragment }

/-- Whether a character separates path segments of a special URL. -/
def isSlash (c : Char) : Bool := c == '/' || c == '\\'

/-- Reads what follows `file://`: the host (none when it is empty or `localhost`)
and the text after it, without the slash that starts the path. Text before the path
that is a drive letter is no host but the start of the path. -/
def fileAuthority (cs : List Char) : Except ParseError (Option Host × List Char) := do
  let (hostText, rest) := cs.span (!endsAuthority true ·)
  if isDriveLetter (String.ofList hostText) then return (none, cs)
  let host ← if hostText.isEmpty then pure none else do
    let h ← parseSpecialHost (String.ofList hostText)
    pure (if h == .domain "localhost" then none else some h)
  match rest with
  | c :: more => pure (host, if isSlash c then more else rest)
  | [] => pure (host, [])

/-- Reads what follows `file:`. Leading empty segments of the path are dropped, and
a drive letter at its start takes the place of the host. -/
def parseFile (cs : List Char) : Except ParseError Url := do
  let (host, rest) ← match cs with
    | a :: b :: more =>
      if isSlash a && isSlash b then fileAuthority more
      else if isSlash a then pure (none, b :: more)
      else pure (none, cs)
    | a :: more => pure (none, if isSlash a then more else cs)
    | [] => pure (none, [])
  let (pathPart, tail) := rest.span fun c => c != '?' && c != '#'
  let (path, drive) := fileSegments pathPart
  let (query, fragment) := queryAndFragment true tail
  let host := if drive then none else host
  pure { scheme := "file", host := some (host.getD (.domain "")), path := .segments path,
         query, fragment }

/-- Reads what follows the scheme of a scheme that is not special. -/
def parseOther (scheme : String) (cs : List Char) : Except ParseError Url := do
  match cs with
  | '/' :: '/' :: more =>
    let (auth, rest) := more.span (!endsAuthority false ·)
    let (u, leftover) ← parseAuthority scheme false auth (!rest.isEmpty) { scheme }
    let (pathPart, tail) := (leftover ++ rest).span fun c => c != '?' && c != '#'
    let (query, fragment) := queryAndFragment false tail
    let path := match pathPart with
      | '/' :: p => pathSegments false p
      | [] => []
      | p => pathSegments false p
    pure { u with path := .segments path, query, fragment }
  | '/' :: more =>
    let (pathPart, tail) := more.span fun c => c != '?' && c != '#'
    let (query, fragment) := queryAndFragment false tail
    pure { scheme, path := .segments (pathSegments false pathPart), query, fragment }
  | _ =>
    let (pathPart, tail) := cs.span fun c => c != '?' && c != '#'
    let (query, fragment) := queryAndFragment false tail
    pure { scheme, path := .single (Percent.encode Percent.controls (String.ofList pathPart)), query, fragment }

/-- Reads an absolute URL. -/
def parse (s : String) : Except ParseError Url := do
  match splitScheme (clean s) with
  | none => throw .relativeWithoutBase
  | some (scheme, rest) =>
    if scheme == "file" then parseFile rest
    else if isSpecial scheme then parseSpecial scheme rest
    else parseOther scheme rest

end HttpBlueprint.Url
