import HttpBlueprint.Derive.Token
/-!
# Attributes

An attribute is the text between `#[` and `]` in front of an item or a field. Its
tokens form a path (identifiers joined by `::`), then a group of arguments (a
list), or `=` and a value, or nothing.

The arguments of a list are read as nested items: a path, then what the reader
of that path asks for (nothing, or `= "text"`), and a comma before the next item;
a comma may also end the list. Refusals name what was expected; a refusal at the
end of the tokens says "unexpected end of input" first, except for a missing
punctuation mark.
-/

namespace HttpBlueprint.Derive

/-- The text of an attribute. -/
structure Attribute where
  text : String
  deriving Repr, DecidableEq, Inhabited

/-- A path: identifiers joined by `::`, perhaps after a leading `::`. -/
structure Path where
  leadingColon : Bool := false
  segments : List String
  deriving Repr, DecidableEq, Inhabited

/-- Whether a path is the single identifier `name`. -/
def Path.isIdent (p : Path) (name : String) : Bool :=
  !p.leadingColon && p.segments == [name]

/-- The form of an attribute after its path. -/
inductive Meta where
  /-- The path alone. -/
  | path (p : Path)
  /-- The path and a group of arguments. -/
  | list (p : Path) (args : List Token)
  /-- The path, `=` and a value. -/
  | nameValue (p : Path)
  deriving Repr, Inhabited

/-- The path of an attribute. -/
def Meta.attrPath : Meta → Path
  | .path p | .list p _ | .nameValue p => p

/-- The words that are no identifiers in a path. -/
def keywords : List String :=
  ["_", "abstract", "as", "async", "await", "become", "box", "break", "const", "continue",
   "crate", "do", "dyn", "else", "enum", "extern", "false", "final", "fn", "for", "if",
   "impl", "in", "let", "loop", "macro", "match", "mod", "move", "mut", "override", "priv",
   "pub", "ref", "return", "Self", "self", "static", "struct", "super", "trait", "true",
   "try", "type", "typeof", "unsafe", "unsized", "use", "virtual", "where", "while", "yield"]

/-- A refusal where tokens were expected: at the end of the tokens it says so. -/
def expected (ts : List Token) (what : String) : String :=
  if ts.isEmpty then "unexpected end of input, " ++ what else what

/-- Splits off a leading `::`. -/
def leadingColons (ts : List Token) : Bool × List Token :=
  match ts with
  | .punct ':' true :: .punct ':' _ :: rest => (true, rest)
  | _ => (false, ts)

/-- Whether tokens start a literal: a literal token, or `-` and a number. -/
def startsLiteral : List Token → Bool
  | .lit _ :: _ => true
  | .punct '-' _ :: .lit .number :: _ => true
  | _ => false

/-- Reads `::`-separated identifiers after the first one; `word` tells which
identifiers may stand, and `missing` is the refusal when none follows a `::`. -/
def moreSegments (word : String → Bool) (missing : String) :
    List Token → List String → Except String (List String × List Token)
  | .punct ':' true :: .punct ':' _ :: rest, acc =>
    match rest with
    | .ident name :: more =>
      if word name then moreSegments word missing more (name :: acc)
      else throw (expected rest missing)
    | _ => throw (expected rest missing)
  | ts, acc => pure (acc.reverse, ts)

/-- Whether an identifier may stand in the path of an attribute. -/
def isPathWord (name : String) : Bool :=
  !keywords.contains name || ["self", "super", "Self", "crate"].contains name

/-- The path at the head of an attribute. -/
def attributePath (ts : List Token) : Except String (Path × List Token) := do
  let (leading, ts) := leadingColons ts
  match ts with
  | .ident name :: rest =>
    if isPathWord name then
      let (segments, rest) ← moreSegments isPathWord "expected path segment after `::`" rest [name]
      pure (⟨leading, segments⟩, rest)
    else throw ("expected identifier, found keyword `" ++ name ++ "`")
  | _ => throw (expected ts "expected identifier")

/-- Reads an attribute's tokens: its form and the tokens left after it. -/
def readMeta (ts : List Token) : Except String (Meta × List Token) := do
  let (p, rest) ← attributePath ts
  match rest with
  | .group _ args :: more => pure (.list p args, more)
  | .punct '=' _ :: more =>
    match more with
    | [] => throw (expected more "expected an expression")
    | .punct '#' _ :: .group .bracket _ :: _ => throw "unexpected attribute inside of attribute"
    | _ => pure (.nameValue p, [])
  | _ => pure (.path p, rest)

/-- The path of a nested item, where keywords count as identifiers. -/
def nestedPath (ts : List Token) : Except String (Path × List Token) := do
  let (leading, ts) := leadingColons ts
  match ts with
  | .ident name :: rest =>
    let (segments, rest) ← moreSegments (fun _ => true) "expected ident" rest [name]
    pure (⟨leading, segments⟩, rest)
  | [] => throw (expected ts "expected nested attribute")
  | _ =>
    if startsLiteral ts then throw "unexpected literal in nested attribute, expected ident"
    else throw "unexpected token in nested attribute, expected ident"

/-- Reads `= "text"` after the path of a nested item: the text and the rest. -/
def stringValue (ts : List Token) : Except String (String × List Token) :=
  match ts with
  | .punct '=' _ :: rest =>
    match rest with
    | .lit (.str v) :: more => pure (v, more)
    | _ => throw (expected rest "expected string literal")
  | _ => throw "expected `=`"

/-- Reads nested items, `fuel` bounding their number. -/
def nestedFrom {σ : Type} (step : σ → Path → List Token → Except String (σ × List Token)) :
    Nat → σ → List Token → Except String σ
  | _, st, [] => pure st
  | 0, st, _ => pure st
  | fuel + 1, st, ts => do
    let (path, rest) ← nestedPath ts
    let (st, rest) ← step st path rest
    match rest with
    | [] => pure st
    | .punct ',' _ :: more => nestedFrom step fuel st more
    | _ => throw "expected `,`"

/-- Reads the nested items of a list's arguments in order: each path, then what
`step` reads after it, which also gives the new state. Each item takes a token at
least, so for a `step` that leaves no more tokens than it is given the number of tokens
bounds the number of items (`nestedFrom_eq_nestedItems`). -/
def nestedItems {σ : Type} (step : σ → Path → List Token → Except String (σ × List Token))
    (st : σ) (ts : List Token) : Except String σ :=
  nestedFrom step ts.length st ts

/-- The arguments of an attribute with path `aggregate`, none for another path;
only a list has arguments. -/
def aggregateArgs (m : Meta) : Except String (Option (List Token)) :=
  if !m.attrPath.isIdent "aggregate" then pure none
  else match m with
    | .list _ args => pure (some args)
    | .path _ => throw "expected attribute arguments in parentheses: #[aggregate(...)]"
    | .nameValue _ => throw "expected parentheses: #[aggregate(...)]"

end HttpBlueprint.Derive
