import HttpBlueprint.Url.Error
import HttpBlueprint.Url.Idna
import HttpBlueprint.Text.Percent
/-!
# Hosts

The host of a URL with a special scheme is a domain, an IPv4 address or a
bracketed IPv6 address. Its text is percent-decoded and brought to ASCII as an
internationalized domain name, and a domain whose last label is a number is
read as an IPv4 address, in the forms `a.b.c.d`, `a.b.c`, `a.b`, `a` with
decimal, octal (`0` prefix) or hexadecimal (`0x` prefix) numbers.

The host of another scheme is kept as written, with controls and non-ASCII
characters percent-encoded; it may not hold a forbidden character.
-/

namespace HttpBlueprint.Url

/-- A host. -/
inductive Host where
  | domain (name : String)
  | ipv4 (address : Nat)
  | ipv6 (pieces : List Nat)
  /-- The host of a scheme that is not special, kept as written. -/
  | verbatim (text : String)
  deriving Repr, DecidableEq, Inhabited

/-! ## Numbers -/

/-- The value of a digit in a base up to sixteen. -/
def digitIn (base : Nat) (c : Char) : Option Nat :=
  let v :=
    if c.isDigit then some (c.toNat - 0x30)
    else if 'a' ≤ c ∧ c ≤ 'f' then some (c.toNat - 0x61 + 10)
    else if 'A' ≤ c ∧ c ≤ 'F' then some (c.toNat - 0x41 + 10)
    else none
  v.bind fun d => if d < base then some d else none

/-- The value of digits in a base. -/
def numberIn (base : Nat) (cs : List Char) : Option Nat :=
  cs.foldlM (fun acc c => (digitIn base c).map (base * acc + ·)) 0

/-- One part of an IPv4 address: hexadecimal after `0x`, octal after `0`, else
decimal. -/
def ipv4Number (part : List Char) : Option Nat :=
  match part with
  | [] => none
  | '0' :: x :: rest => if x == 'x' || x == 'X' then numberIn 16 rest else numberIn 8 (x :: rest)
  | cs => numberIn 10 cs

/-- The dot-separated parts of a domain, without one trailing empty part. -/
def domainParts (domain : String) : List (List Char) :=
  let parts := domain.toList.splitOn '.'
  match parts.reverse with
  | [] :: rest@(_ :: _) => rest.reverse
  | _ => parts

/-- Whether the last part of a domain is a number, so that it names an IPv4 address. -/
def endsInNumber (domain : String) : Bool :=
  match (domainParts domain).getLast? with
  | some last => (!last.isEmpty && last.all Char.isDigit) || (ipv4Number last).isSome
  | none => false

/-- Reads an IPv4 address. -/
def parseIpv4 (domain : String) : Except ParseError Nat := do
  let parts := domainParts domain
  if parts.length > 4 || parts.isEmpty then throw .invalidIpv4
  let nums ← parts.mapM fun p => match ipv4Number p with
    | some n => pure n
    | none => throw .invalidIpv4
  let front := nums.dropLast
  let last := nums.getLast?.getD 0
  if front.any (· > 255) then throw .invalidIpv4
  if last ≥ Nat.pow 256 (5 - nums.length) then throw .invalidIpv4
  pure (front.zipIdx.foldl (fun acc (n, i) => acc + n * Nat.pow 256 (3 - i)) last)

/-! ## IPv6 -/

/-- Reads the dotted IPv4 tail of an IPv6 address as two pieces. -/
def ipv6Tail (cs : List Char) : Except ParseError (List Nat) := do
  let parts := cs.splitOn '.'
  if parts.length != 4 then throw .invalidIpv6
  let nums ← parts.mapM fun p =>
    if p.isEmpty || (p.length > 1 && p.head? == some '0') then throw .invalidIpv6
    else match numberIn 10 p with
      | some n => if n > 255 then throw .invalidIpv6 else pure n
      | none => throw .invalidIpv6
  match nums with
  | [a, b, c, d] => pure [a * 256 + b, c * 256 + d]
  | _ => throw .invalidIpv6

/-- Reads colon-separated pieces of at most four hexadecimal digits; when `tail`
holds, the last of them may be a dotted IPv4 tail, which ends the address. -/
def ipv6Pieces (tail : Bool) (cs : List Char) : Except ParseError (List Nat) := do
  if cs.isEmpty then return []
  let groups := cs.splitOn ':'
  let n := groups.length
  let out ← groups.zipIdx.mapM fun (g, i) =>
    if tail && i + 1 == n && g.contains '.' then ipv6Tail g
    else if g.isEmpty || g.length > 4 then throw .invalidIpv6
    else match numberIn 16 g with
      | some v => pure [v]
      | none => throw .invalidIpv6
  pure out.flatten

/-- Reads an IPv6 address, with at most one `::` standing for zero pieces. -/
def parseIpv6 (text : String) : Except ParseError (List Nat) := do
  let cs := text.toList
  let rec findGap : List Char → Nat → Option Nat
    | ':' :: ':' :: _, i => some i
    | _ :: rest, i => findGap rest (i + 1)
    | [], _ => none
  match findGap cs 0 with
  | none =>
    let ps ← ipv6Pieces true cs
    if ps.length != 8 then throw .invalidIpv6
    pure ps
  | some i =>
    -- the zeros that `::` stands for fill the address up to eight pieces
    let before := cs.take i
    let after := cs.drop (i + 2)
    if (findGap after 0).isSome then throw .invalidIpv6
    let a ← ipv6Pieces false before
    let b ← ipv6Pieces true after
    if a.length + b.length > 7 then throw .invalidIpv6
    pure (a ++ List.replicate (8 - a.length - b.length) 0 ++ b)

/-- Lower-case hexadecimal digits of a number, without leading zeros. -/
def hexText (n : Nat) : String :=
  String.ofList ((Nat.toDigits 16 n))

/-- The longest run of at least two zero pieces, as its start and length; the
first of equal runs wins. -/
def longestZeroRun (ps : List Nat) : Option (Nat × Nat) :=
  let step := fun (acc : Option (Nat × Nat) × Nat × Nat) (p : Nat × Nat) =>
    let (best, start, len) := acc
    let (v, i) := p
    if v == 0 then
      let start := if len == 0 then i else start
      let len := len + 1
      let best := match best with
        | some (_, l) => if len > l then some (start, len) else best
        | none => if len ≥ 2 then some (start, len) else none
      (best, start, len)
    else (best, start, 0)
  (ps.zipIdx.foldl step (none, 0, 0)).1 |>.bind fun (s, l) => if l ≥ 2 then some (s, l) else none

/-- The text of an IPv6 address, with its longest run of zeros as `::`. -/
def ipv6Text (ps : List Nat) : String :=
  let piece := fun (xs : List Nat) => ":".intercalate (xs.map hexText)
  match longestZeroRun ps with
  | some (s, l) => piece (ps.take s) ++ "::" ++ piece (ps.drop (s + l))
  | none => piece ps

/-! ## Domains -/

/-- Characters that may not stand in a host. -/
def isForbiddenHostChar (c : Char) : Bool :=
  c.toNat == 0 || "\t\n\r #/:<>?@[\\]^|".contains c

/-- The ASCII form of a domain. -/
def domainToAscii (domain : String) : Except ParseError String :=
  match Idna.toAscii domain.toList with
  | some cs => pure (String.ofList cs)
  | none => throw .invalidDomainName

/-- The bytes of percent-decoded text. -/
def percentDecode : List UInt8 → List UInt8
  | 0x25 :: h :: l :: rest =>
    match digitIn 16 (Char.ofNat h.toNat), digitIn 16 (Char.ofNat l.toNat) with
    | some a, some b => (16 * a + b).toUInt8 :: percentDecode rest
    | _, _ => 0x25 :: percentDecode (h :: l :: rest)
  | b :: rest => b :: percentDecode rest
  | [] => []

/-- Percent-decodes text; bytes that are not UTF-8 become U+FFFD. -/
def percentDecodeText (s : String) : String :=
  let bytes := percentDecode s.toUTF8.toList
  match String.fromUTF8? ⟨bytes.toArray⟩ with
  | some t => t
  | none => "\uFFFD"

/-- Reads the host of a special scheme. -/
def parseSpecialHost (text : String) : Except ParseError Host := do
  match text.toList with
  | '[' :: rest =>
    match rest.reverse with
    | ']' :: inner => return .ipv6 (← parseIpv6 (String.ofList inner.reverse))
    | _ => throw .invalidIpv6
  | _ =>
    let ascii ← domainToAscii (percentDecodeText text)
    if ascii.isEmpty then throw .emptyHost
    if endsInNumber ascii then return .ipv4 (← parseIpv4 ascii)
    return .domain ascii

/-- Reads the host of a scheme that is not special. -/
def parseOtherHost (text : String) : Except ParseError Host := do
  match text.toList with
  | '[' :: rest =>
    match rest.reverse with
    | ']' :: inner => return .ipv6 (← parseIpv6 (String.ofList inner.reverse))
    | _ => throw .invalidIpv6
  | cs =>
    if cs.any isForbiddenHostChar then throw .invalidDomainCharacter
    return .verbatim (Percent.encode Percent.controls text)

/-- The text of a host. -/
def Host.text : Host → String
  | .domain d => d
  | .ipv4 a => ".".intercalate ((List.range 4).map fun i => toString (a / Nat.pow 256 (3 - i) % 256))
  | .ipv6 ps => "[" ++ ipv6Text ps ++ "]"
  | .verbatim t => t

end HttpBlueprint.Url
