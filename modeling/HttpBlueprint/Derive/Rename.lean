import HttpBlueprint.Text.CaseMap
/-!
# Rename rules

The case conventions a derived aggregate can apply to its field names:
`lowercase` and `UPPERCASE` map the whole name (with the Unicode case mappings;
`SCREAMING_SNAKE_CASE` is the same as `UPPERCASE`), `kebab-case` writes every `_`
as `-`, `snake_case` keeps the name, and `camelCase` and `PascalCase` drop every
`_` and upper-case the character after an `_` that follows some output, or after
any `_` and at the start for `PascalCase`. Nothing else is lowered, so
`HTTPServer` stays as it is.
-/

namespace HttpBlueprint.Derive

/-- A case convention. -/
inductive RenameRule where
  | lowerCase
  | upperCase
  | camelCase
  | pascalCase
  | snakeCase
  | screamingSnakeCase
  | kebabCase
  deriving Repr, DecidableEq, Inhabited

namespace RenameRule

/-- Reads the name of a convention. -/
def parse? : String → Option RenameRule
  | "lowercase" => some .lowerCase
  | "UPPERCASE" => some .upperCase
  | "camelCase" => some .camelCase
  | "PascalCase" => some .pascalCase
  | "snake_case" => some .snakeCase
  | "SCREAMING_SNAKE_CASE" => some .screamingSnakeCase
  | "kebab-case" => some .kebabCase
  | _ => none

/-- Joins words at `_`: `capitalizeNext` says that the next character other than
`_` is upper-cased, `started` that something has been written. -/
def joinWords (pascal : Bool) : List Char → Bool → Bool → List Char
  | [], _, _ => []
  | c :: rest, capitalizeNext, started =>
    if c == '_' then joinWords pascal rest (started || pascal) started
    else if capitalizeNext then CaseMap.upperChar c ++ joinWords pascal rest false true
    else c :: joinWords pascal rest false true

/-- The camel-case form of a name, upper-casing its first character when `pascal`. -/
def camel (name : String) (pascal : Bool) : String :=
  String.ofList (joinWords pascal name.toList pascal false)

/-- Applies a convention to a name. -/
def apply : RenameRule → String → String
  | .lowerCase, n => CaseMap.lower n
  | .upperCase, n => CaseMap.upper n
  | .camelCase, n => camel n false
  | .pascalCase, n => camel n true
  | .snakeCase, n => n
  | .screamingSnakeCase, n => CaseMap.upper n
  | .kebabCase, n => n.map fun c => if c == '_' then '-' else c

end RenameRule

end HttpBlueprint.Derive
