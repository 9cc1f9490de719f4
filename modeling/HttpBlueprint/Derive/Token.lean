import HttpBlueprint.Text.Blank
import HttpBlueprint.Text.Identifier
/-!
# Tokens of item declarations

The text of an attribute is read as a stream of token trees, as the compiler
reads source text: identifiers (raw ones written `r#name`), punctuation marks
that know whether another mark follows them at once, literals, and groups in
parentheses, brackets or braces.

Blanks are the Unicode white space and the two direction marks; comments run to
the end of the line (`//`) or to their matching `*/`, nesting. A doc comment
(`///`, `//!`, `/** */`, `/*! */`) stands for the attribute `#[doc = "text"]`.

A string literal's value has its escapes resolved: `\n \r \t \\ \0 \' \"`,
`\x` with a value below 0x80, `\u{…}` with up to six hexadecimal digits and
underscores, and a backslash at the end of a line, which drops the blanks that
follow. A line break written CR LF counts as LF, and a CR alone is refused. A raw
string `r#"…"#` is taken as written. Any literal may carry an identifier as
suffix.

Text that is no such stream (an unclosed string, comment or group, a stray
closing bracket, a character that is none of the above) is refused.
-/

namespace HttpBlueprint.Derive

/-- The delimiter of a group. -/
inductive Delimiter where
  | paren | bracket | brace
  deriving Repr, DecidableEq, Inhabited

/-- A literal, as far as attributes tell literals apart. -/
inductive Literal where
  /-- A string literal, with its value. -/
  | str (value : String)
  /-- An integer or floating-point literal. -/
  | number
  /-- A character, byte, byte string or C string literal. -/
  | other
  deriving Repr, DecidableEq, Inhabited

/-- A token tree. -/
inductive Token where
  | ident (name : String)
  /-- A punctuation mark; `joint` when another mark follows it at once. -/
  | punct (c : Char) (joint : Bool)
  | lit (l : Literal)
  | group (d : Delimiter) (inner : List Token)
  deriving Repr, Inhabited

namespace Token

/-! ## Blanks and comments -/

/-- Whether a character is blank between tokens. -/
def isBlank (c : Char) : Bool :=
  Blank.isBlank c || c.toNat == 0x200E || c.toNat == 0x200F

/-- The rest after a block comment whose opening `/*` is read, `depth` comments
being open; the text of the comment before its last `*/` comes first. -/
def blockCommentEnd : List Char → Nat → List Char → Option (List Char × List Char)
  | '/' :: '*' :: rest, d, acc => blockCommentEnd rest (d + 1) ('*' :: '/' :: acc)
  | '*' :: '/' :: rest, d, acc =>
    if d ≤ 1 then some (acc.reverse, rest) else blockCommentEnd rest (d - 1) ('/' :: '*' :: acc)
  | c :: rest, d, acc => blockCommentEnd rest d (c :: acc)
  | [], _, _ => none

/-- The text of a line comment up to its line break, and the rest from there. -/
def lineCommentEnd (cs : List Char) : List Char × List Char :=
  match cs.span (· != '\n') with
  | (line, rest) =>
    match line.reverse with
    | '\r' :: front => if rest.isEmpty then (line, rest) else (front.reverse, '\r' :: rest)
    | _ => (line, rest)

/-- Whether text starts a comment that is not a doc comment. -/
def startsPlainComment : List Char → Bool
  | '/' :: '/' :: '/' :: '/' :: _ => true
  | '/' :: '/' :: '/' :: _ => false
  | '/' :: '/' :: '!' :: _ => false
  | '/' :: '/' :: _ => true
  | '/' :: '*' :: '*' :: '/' :: _ => true
  | '/' :: '*' :: '*' :: '*' :: _ => true
  | '/' :: '*' :: '*' :: _ => false
  | '/' :: '*' :: '!' :: _ => false
  | '/' :: '*' :: _ => true
  | _ => false

/-- The text after a plain comment that opens `cs`; `cs` itself when the comment
is not closed. -/
def afterComment (cs : List Char) : List Char :=
  match cs with
  | _ :: '/' :: more => (lineCommentEnd more).2
  | _ :: _ :: more =>
    match blockCommentEnd more 1 [] with
    | some (_, r) => r
    | none => cs
  | _ => cs

/-- Drops blanks and plain comments; stops at an unclosed comment. -/
def skipBlank (cs : List Char) : List Char :=
  match cs with
  | [] => []
  | c :: rest =>
    if isBlank c then skipBlank rest
    else if startsPlainComment (c :: rest) then
      if _h : (afterComment (c :: rest)).length < rest.length + 1 then
        skipBlank (afterComment (c :: rest))
      else c :: rest
    else c :: rest
termination_by cs.length
decreasing_by all_goals simp only [List.length_cons]; omega

/-- Whether text holds a CR that no LF follows. -/
def hasBareCr : List Char → Bool
  | '\r' :: '\n' :: rest => hasBareCr rest
  | '\r' :: _ => true
  | _ :: rest => hasBareCr rest
  | [] => false

/-- The tokens of the attribute that a doc comment stands for. -/
def docTokens (inner : Bool) (text : List Char) : List Token :=
  [.punct '#' false] ++ (if inner then [.punct '!' false] else []) ++
    [.group .bracket [.ident "doc", .punct '=' false, .lit (.str (String.ofList text))]]

/-- A doc comment at the start of text: its tokens and the rest. -/
def docComment? (cs : List Char) : Option (List Token × List Char) :=
  let found : Option (Bool × List Char × List Char) := match cs with
    | '/' :: '/' :: '!' :: rest => some (true, lineCommentEnd rest)
    | '/' :: '*' :: '!' :: rest => (blockCommentEnd ('!' :: rest) 1 []).map fun (t, r) => (true, t.drop 1, r)
    | '/' :: '/' :: '/' :: rest =>
      if rest.head? == some '/' then none else some (false, lineCommentEnd rest)
    | '/' :: '*' :: '*' :: rest =>
      if rest.head? == some '*' then none
      else (blockCommentEnd ('*' :: rest) 1 []).map fun (t, r) => (false, t.drop 1, r)
    | _ => none
  found.bind fun (inner, text, rest) =>
    if hasBareCr text then none else some (docTokens inner text, rest)

/-! ## Identifiers and punctuation -/

/-- An identifier that is not raw: its characters and the rest. -/
def plainIdent? (cs : List Char) : Option (List Char × List Char) :=
  match cs with
  | c :: rest => if Identifier.isStart c then some (c :: rest.takeWhile Identifier.isContinue, rest.dropWhile Identifier.isContinue) else none
  | [] => none

/-- Drops the identifier that a literal may carry as suffix. -/
def dropSuffix (cs : List Char) : List Char :=
  match plainIdent? cs with
  | some (_, rest) => rest
  | none => cs

/-- Text that starts a literal and is no identifier. -/
def literalPrefixes : List (List Char) :=
  ["r\"", "r#\"", "r##", "b\"", "b'", "br\"", "br#", "c\"", "cr\"", "cr#"].map String.toList

/-- An identifier, raw or not: its name (`r#` kept) and the rest. -/
def identAny? (cs : List Char) : Option (String × List Char) :=
  match cs with
  | 'r' :: '#' :: rest =>
    (plainIdent? rest).bind fun (name, more) =>
      if ["_", "super", "self", "Self", "crate"].contains (String.ofList name) then none
      else some ("r#" ++ String.ofList name, more)
  | _ => (plainIdent? cs).map fun (name, more) => (String.ofList name, more)

/-- An identifier token: no text that starts a literal. -/
def ident? (cs : List Char) : Option (String × List Char) :=
  if literalPrefixes.any (·.isPrefixOf cs) then none else identAny? cs

/-- Whether text starts with a punctuation mark (and not a comment). -/
def startsPunct : List Char → Bool
  | '/' :: '/' :: _ => false
  | '/' :: '*' :: _ => false
  | c :: _ => "~!@#$%^&*-=+|;:,<.>/?'".contains c
  | [] => false

/-- A punctuation mark: the token and the rest. A quote must begin a lifetime. -/
def punct? (cs : List Char) : Option (Token × List Char) :=
  match cs with
  | c :: rest =>
    if !startsPunct cs then none
    else if c == '\'' then
      match identAny? rest with
      | some (_, more) => if more.head? == some '\'' then none else some (.punct c true, rest)
      | none => none
    else some (.punct c (startsPunct rest), rest)
  | [] => none

/-! ## Escapes -/

/-- The value of a hexadecimal digit. -/
def hexDigit? (c : Char) : Option Nat :=
  if c.isDigit then some (c.toNat - 0x30)
  else if 'a' ≤ c ∧ c ≤ 'f' then some (c.toNat - 0x61 + 10)
  else if 'A' ≤ c ∧ c ≤ 'F' then some (c.toNat - 0x41 + 10)
  else none

/-- Whether a number is the code point of a character. -/
def isScalar (n : Nat) : Bool :=
  n < 0xD800 || (0xE000 ≤ n && n ≤ 0x10FFFF)

/-- The rest of a `\u{…}` escape after its brace: up to six digits, underscores
after the first, and the closing brace. -/
def unicodeEscape? : Nat → Nat → List Char → Option (Char × List Char)
  | v, n, c :: rest =>
    if c == '}' && n > 0 then (if isScalar v then some (Char.ofNat v, rest) else none)
    else if c == '_' && n > 0 then unicodeEscape? v n rest
    else match hexDigit? c with
      | some d => if n == 6 then none else unicodeEscape? (16 * v + d) (n + 1) rest
      | none => none
  | _, _, [] => none

/-- The text after a backslash at the end of a line: blanks (space, tab, line
breaks) are dropped, a CR needing an LF after it. -/
def skipContinuation : Bool → List Char → Option (List Char)
  | true, '\n' :: rest => skipContinuation false rest
  | true, _ => none
  | false, c :: rest =>
    if c == '\r' then skipContinuation true rest
    else if c == ' ' || c == '\t' || c == '\n' then skipContinuation false rest
    else some (c :: rest)
  | false, [] => none

/-- The value of a simple escape letter. -/
def simpleEscape? (c : Char) : Option Char :=
  match c with
  | 'n' => some '\n' | 'r' => some '\r' | 't' => some '\t' | '\\' => some '\\'
  | '0' => some (Char.ofNat 0) | '\'' => some '\'' | '"' => some '"'
  | _ => none

/-- Which text a quoted literal may hold. -/
inductive Flavor where
  /-- A string: any character; `\x` below 0x80. -/
  | text
  /-- A byte string: ASCII only; `\x` any byte. -/
  | bytes
  /-- A C string: no NUL, written or escaped. -/
  | cText
  deriving DecidableEq

/-- One escape after its backslash: the character, or none to skip a line
continuation; and the rest. -/
def escape? (flavor : Flavor) : List Char → Option (Option Char × List Char)
  | 'x' :: a :: b :: rest =>
    match hexDigit? a, hexDigit? b with
    | some x, some y =>
      let v := 16 * x + y
      let ok := match flavor with
        | .text => decide (v < 0x80)
        | .bytes => true
        | .cText => v != 0
      if ok then some (some (Char.ofNat v), rest) else none
    | _, _ => none
  | 'u' :: '{' :: rest =>
    if flavor == .bytes then none
    else (unicodeEscape? 0 0 rest).bind fun (c, more) =>
      if flavor == .cText && c.toNat == 0 then none else some (some c, more)
  | '\n' :: rest => (skipContinuation false rest).map fun r => (none, r)
  | '\r' :: rest => (skipContinuation true rest).map fun r => (none, r)
  | c :: rest =>
    match simpleEscape? c with
    | some v => if flavor == .cText && c == '0' then none else some (some v, rest)
    | none => none
  | [] => none

/-- Whether a character may stand as written in a quoted literal. -/
def plainOk (flavor : Flavor) (c : Char) : Bool :=
  match flavor with
  | .text => true
  | .bytes => c.toNat < 0x80
  | .cText => c.toNat != 0

/-- The value of a quoted literal's body up to its closing quote, and the rest. -/
def quoted? (flavor : Flavor) (cs : List Char) (acc : List Char) : Option (List Char × List Char) :=
  match cs with
  | '"' :: rest => some (acc.reverse, rest)
  | '\r' :: '\n' :: rest => quoted? flavor rest ('\n' :: acc)
  | '\r' :: _ => none
  | '\\' :: rest =>
    match escape? flavor rest with
    | some (v, more) =>
      if _h : more.length < rest.length + 1 then
        quoted? flavor more (match v with | some c => c :: acc | none => acc)
      else none
    | none => none
  | c :: rest => if plainOk flavor c then quoted? flavor rest (c :: acc) else none
  | [] => none
termination_by cs.length
decreasing_by all_goals simp only [List.length_cons]; omega

/-- The body of a raw literal after its opening quote, closed by a quote and
`hashes` number signs: its text and the rest. -/
def rawBody? (flavor : Flavor) (hashes : Nat) : List Char → List Char → Option (List Char × List Char)
  | '"' :: rest, acc =>
    if (rest.take hashes).length == hashes && (rest.take hashes).all (· == '#') then
      some (acc.reverse, rest.drop hashes)
    else rawBody? flavor hashes rest ('"' :: acc)
  | '\r' :: '\n' :: rest, acc => rawBody? flavor hashes rest ('\n' :: '\r' :: acc)
  | '\r' :: _, _ => none
  | c :: rest, acc => if plainOk flavor c then rawBody? flavor hashes rest (c :: acc) else none
  | [], _ => none

/-- A raw literal after its letter: number signs, a quote, the body. -/
def raw? (flavor : Flavor) (cs : List Char) : Option (List Char × List Char) :=
  let hashes := (cs.takeWhile (· == '#')).length
  match cs.drop hashes with
  | '"' :: rest => if hashes > 255 then none else rawBody? flavor hashes rest []
  | _ => none

/-! ## Literals -/

/-- A character literal's body after its opening quote: one character or escape,
then the closing quote; gives the rest. -/
def charBody? (bytes : Bool) (cs : List Char) : Option (List Char) :=
  let afterOne : Option (List Char) := match cs with
    | '\\' :: 'x' :: a :: b :: rest =>
      match hexDigit? a, hexDigit? b with
      | some x, some _ => if bytes || x < 8 then some rest else none
      | _, _ => none
    | '\\' :: 'u' :: '{' :: rest =>
      if bytes then none else (unicodeEscape? 0 0 rest).map (·.2)
    | '\\' :: c :: rest => (simpleEscape? c).map fun _ => rest
    | c :: rest => if bytes && c.toNat ≥ 0x80 then none else some rest
    | [] => none
  match afterOne with
  | some ('\'' :: rest) => some rest
  | _ => none

/-- The length of a float's digits before its exponent, whether a point was met,
and whether an exponent mark ends it; none when a point is followed by another
point or an identifier. -/
def mantissa? : List Char → Bool → Nat → Option (Nat × Bool × Bool)
  | c :: rest, dot, n =>
    if c.isDigit || c == '_' then mantissa? rest dot (n + 1)
    else if c == '.' then
      if dot then some (n, dot, false)
      else match rest with
        | d :: _ => if d == '.' || Identifier.isStart d then none else mantissa? rest true (n + 1)
        | [] => mantissa? rest true (n + 1)
    else if c == 'e' || c == 'E' then some (n + 1, dot, true)
    else some (n, dot, false)
  | [], dot, n => some (n, dot, false)

/-- The length of an exponent after its mark and whether it has digits; none when
a second sign stops it. -/
def exponent? : List Char → Bool → Bool → Nat → Option (Nat × Bool)
  | c :: rest, sign, digits, n =>
    if c == '+' || c == '-' then
      if digits then some (n, digits)
      else if sign then none
      else exponent? rest true digits (n + 1)
    else if c.isDigit then exponent? rest sign true (n + 1)
    else if c == '_' then exponent? rest sign digits (n + 1)
    else some (n, digits)
  | [], _, digits, n => some (n, digits)

/-- The length of a floating-point literal's digits. -/
def floatLength? (cs : List Char) : Option Nat :=
  match cs with
  | c :: rest =>
    if !c.isDigit then none
    else (mantissa? rest false 1).bind fun (len, dot, exp) =>
      if !(dot || exp) then none
      else if !exp then some len
      else
        let beforeExp := if dot then some (len - 1) else none
        match exponent? (cs.drop len) false false 0 with
        | some (k, true) => some (len + k)
        | _ => beforeExp
  | [] => none

/-- The length of an integer literal's digits, with its base prefix. -/
def intLength? (cs : List Char) : Option Nat :=
  let (base, skip) := match cs with
    | '0' :: 'x' :: _ => (16, 2)
    | '0' :: 'o' :: _ => (8, 2)
    | '0' :: 'b' :: _ => (2, 2)
    | _ => (10, 0)
  let rec go : List Char → Nat → Bool → Option (Nat × Bool)
    | c :: rest, len, empty =>
      if c.isDigit then
        if c.toNat - 0x30 ≥ base then none else go rest (len + 1) false
      else if ('a' ≤ c ∧ c ≤ 'f') || ('A' ≤ c ∧ c ≤ 'F') then
        if base ≤ 10 then some (len, empty) else go rest (len + 1) false
      else if c == '_' then
        if empty && base == 10 then none else go rest (len + 1) empty
      else some (len, empty)
    | [], len, empty => some (len, empty)
  match go (cs.drop skip) 0 true with
  | some (len, false) => some (skip + len)
  | _ => none

/-- The rest after a number's digits: its suffix is dropped, and no identifier
character may follow. -/
def afterNumber? (rest : List Char) : Option (List Char) :=
  let rest := match rest with
    | c :: _ => if Identifier.isStart c then dropSuffix rest else rest
    | [] => rest
  match rest with
  | c :: _ => if Identifier.isContinue c then none else some rest
  | [] => some rest

/-- A number literal, floating-point if it reads as one, else an integer: the
rest after it. -/
def number? (cs : List Char) : Option (List Char) :=
  match (floatLength? cs).bind fun n => afterNumber? (cs.drop n) with
  | some rest => some rest
  | none => (intLength? cs).bind fun n => afterNumber? (cs.drop n)

/-- A literal at the start of text, and the rest. -/
def literal? (cs : List Char) : Option (Literal × List Char) :=
  let str : Option (Literal × List Char) := match cs with
    | '"' :: rest => (quoted? .text rest []).map fun (v, r) => (.str (String.ofList v), dropSuffix r)
    | 'r' :: rest => (raw? .text rest).map fun (v, r) => (.str (String.ofList v), dropSuffix r)
    | _ => none
  let quotedOther : Option (List Char) := match cs with
    | 'b' :: '"' :: rest => (quoted? .bytes rest []).map (dropSuffix ·.2)
    | 'b' :: 'r' :: rest => (raw? .bytes rest).map (dropSuffix ·.2)
    | 'c' :: '"' :: rest => (quoted? .cText rest []).map (dropSuffix ·.2)
    | 'c' :: 'r' :: rest => (raw? .cText rest).map (dropSuffix ·.2)
    | 'b' :: '\'' :: rest => (charBody? true rest).map dropSuffix
    | '\'' :: rest => (charBody? false rest).map dropSuffix
    | _ => none
  match str with
  | some r => some r
  | none =>
    match quotedOther with
    | some rest => some (.other, rest)
    | none => (number? cs).map fun rest => (.number, rest)

/-- A token that is no group, and the rest. -/
def leaf? (cs : List Char) : Option (Token × List Char) :=
  match literal? cs with
  | some (l, rest) => some (.lit l, rest)
  | none =>
    match punct? cs with
    | some r => some r
    | none => (ident? cs).map fun (name, rest) => (.ident name, rest)

/-! ## Token streams -/

/-- The delimiter that an opening bracket starts. -/
def opening? : Char → Option Delimiter
  | '(' => some .paren | '[' => some .bracket | '{' => some .brace | _ => none

/-- The delimiter that a closing bracket ends. -/
def closing? : Char → Option Delimiter
  | ')' => some .paren | ']' => some .bracket | '}' => some .brace | _ => none

/-- Reads tokens into `acc` (newest first), `outer` holding each enclosing group's
delimiter and the tokens before it. -/
def scanFrom (cs : List Char) (outer : List (Delimiter × List Token)) (acc : List Token) :
    Option (List Token) :=
  let cs' := skipBlank cs
  match docComment? cs' with
  | some (ts, rest) =>
    if _h : rest.length < cs.length then scanFrom rest outer (ts.reverse ++ acc) else none
  | none =>
    match cs' with
    | [] => if outer.isEmpty then some acc.reverse else none
    | c :: rest =>
      if _h : rest.length < cs.length then
        match opening? c, closing? c with
        | some d, _ => scanFrom rest ((d, acc) :: outer) []
        | _, some d =>
          match outer with
          | (d', before) :: more =>
            if d == d' then scanFrom rest more (.group d acc.reverse :: before) else none
          | [] => none
        | none, none =>
          match leaf? cs' with
          | some (t, after) =>
            if _h2 : after.length < cs.length then scanFrom after outer (t :: acc) else none
          | none => none
      else none
termination_by cs.length
decreasing_by all_goals omega

/-- The token trees of a text, none when it is no token stream. -/
def scan? (s : String) : Option (List Token) :=
  scanFrom s.toList [] []

end Token

end HttpBlueprint.Derive
