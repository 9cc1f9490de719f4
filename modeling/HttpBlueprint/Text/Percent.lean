/-!
# Percent-encoding

A percent-encode set names the ASCII characters that a URI component may not carry
as they are. Encoding writes every character outside the set unchanged and every
other one as the `%XX` escapes of its UTF-8 bytes, with upper-case hexadecimal
digits; a character from U+0080 up is always escaped. The form encoding of
`application/x-www-form-urlencoded` differs only in writing a space as `+`.

The sets used by request templates are `pathSegment` (a value placed into a path)
and `queryComponent` (a value placed into a query, which keeps only the unreserved
characters). The URL normaliser uses the sets of the URL standard: `fragment`,
`query`, `specialQuery`, `path`, `userinfo` and `controls`.
-/

namespace HttpBlueprint.Percent

/-- A percent-encode set: the ASCII characters that are escaped. -/
structure EncodeSet where
  escapes : Char → Bool

/-- The upper-case hexadecimal digit of a number below sixteen. -/
def hexDigit (n : Nat) : Char :=
  Char.ofNat (if n < 10 then 0x30 + n else 0x41 + n - 10)

/-- The escape `%XX` of one byte. -/
def escapeByte (b : UInt8) : List Char :=
  ['%', hexDigit (b.toNat / 16), hexDigit (b.toNat % 16)]

/-- Whether a character is an ASCII letter or digit. -/
def isAsciiAlphanumeric (c : Char) : Bool :=
  c.isAlphanum

/-- The escapes of every UTF-8 byte of a character. -/
def escapeChar (c : Char) : List Char :=
  (String.utf8EncodeChar c).flatMap escapeByte

/-- One character of a component: kept when it is ASCII outside the set, else escaped. -/
def encodeChar (set : EncodeSet) (c : Char) : List Char :=
  if c.toNat < 0x80 && !set.escapes c then [c] else escapeChar c

/-- Percent-encodes a text with a set. -/
def encode (set : EncodeSet) (s : String) : String :=
  String.ofList (s.toList.flatMap (encodeChar set))

/-- The characters of an encoded text are the encodings of its characters, in order. -/
@[simp] theorem toList_encode (set : EncodeSet) (s : String) :
    (encode set s).toList = s.toList.flatMap (encodeChar set) := by
  simp [encode]

/-- Encoding works character by character, so it distributes over joining. -/
theorem encode_append (set : EncodeSet) (s t : String) :
    encode set (s ++ t) = encode set s ++ encode set t := by
  apply String.ext
  simp

/-- The C0 controls and DEL. -/
def controls : EncodeSet := ⟨fun c => c.toNat < 0x20 || c.toNat == 0x7F⟩

/-- Controls, space, `"`, `#`, `<`, `>`, backtick, `?`, braces, both slashes and `%`:
a value placed into one path segment cannot open a new segment, query or fragment. -/
def pathSegment : EncodeSet :=
  ⟨fun c => controls.escapes c || " \"#<>`?\x7b\x7d/\\%".contains c⟩

/-- Everything but ASCII letters, digits and `-._~`. -/
def queryComponent : EncodeSet :=
  ⟨fun c => !(isAsciiAlphanumeric c || "-._~".contains c)⟩

/-- The URL standard's fragment set. -/
def fragment : EncodeSet :=
  ⟨fun c => controls.escapes c || " \"<>`".contains c⟩

/-- The URL standard's query set. -/
def query : EncodeSet :=
  ⟨fun c => controls.escapes c || " \"#<>".contains c⟩

/-- The query set of special schemes, which adds the apostrophe. -/
def specialQuery : EncodeSet :=
  ⟨fun c => query.escapes c || c == '\''⟩

/-- The URL standard's path set. -/
def path : EncodeSet :=
  ⟨fun c => query.escapes c || "?`\x7b\x7d".contains c⟩

/-- The URL standard's userinfo set. -/
def userinfo : EncodeSet :=
  ⟨fun c => path.escapes c || "/:;=@[\\]^|".contains c⟩

/-- Percent-encodes a value placed into a path segment. -/
def encodePathSegment (s : String) : String := encode pathSegment s

/-- Percent-encodes a value placed into a query. -/
def encodeQueryComponent (s : String) : String := encode queryComponent s

/-- One character of a form field: letters, digits and `*-._` are kept, a space
becomes `+`, and all else is escaped. -/
def formChar (c : Char) : List Char :=
  if c == ' ' then ['+']
  else if c.toNat < 0x80 && (isAsciiAlphanumeric c || "*-._".contains c) then [c]
  else escapeChar c

/-- Encodes a name or value of an `application/x-www-form-urlencoded` body. -/
def encodeForm (s : String) : String :=
  String.ofList (s.toList.flatMap formChar)

end HttpBlueprint.Percent
