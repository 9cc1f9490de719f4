/-!
# JSON string literals

`JsonString.quote` writes text as a JSON string literal: a quote and a backslash
are escaped, backspace, form feed, newline, carriage return and tab take their
two-character escapes, every other character below U+0020 is written `\u00xx`
with lower-case hexadecimal digits, and all other characters stand as they are.
-/

namespace HttpBlueprint.JsonString

/-- The lower-case hexadecimal digit of a number below sixteen. -/
def hexDigitLower (n : Nat) : Char :=
  Char.ofNat (if n < 10 then 0x30 + n else 0x61 + n - 10)

/-- The escaped form of one character. -/
def escapeChar (c : Char) : List Char :=
  if c == '"' then ['\\', '"']
  else if c == '\\' then ['\\', '\\']
  else if c.toNat == 0x08 then ['\\', 'b']
  else if c.toNat == 0x0C then ['\\', 'f']
  else if c == '\n' then ['\\', 'n']
  else if c == '\r' then ['\\', 'r']
  else if c == '\t' then ['\\', 't']
  else if c.toNat < 0x20 then
    ['\\', 'u', '0', '0', hexDigitLower (c.toNat / 16), hexDigitLower (c.toNat % 16)]
  else [c]

/-- The JSON string literal of a text. -/
def quote (s : String) : String :=
  String.ofList ('"' :: s.toList.flatMap escapeChar ++ ['"'])

end HttpBlueprint.JsonString
