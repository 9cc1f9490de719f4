import HttpBlueprint.Value.Basic
import HttpBlueprint.Derive.Attribute
import HttpBlueprint.Derive.Rename
/-!
# Deriving aggregates

Deriving an aggregate for a struct declaration gives the name of the record type
and the names of its fields, and the fields whose values the record holds.

Every attribute is read first (see `Derive.Attribute`). Then the struct's
`aggregate` attributes are applied, in order, and a later setting wins:
`rename_all = "rule"` and `type_name = "name"` are the only items allowed.
Then the declaration must be a struct with named fields. Then each field's
`aggregate` attributes are read, in order: `skip` leaves the field out and
`rename = "key"` names it. The first refusal wins. A field's key is its rename,
else the struct's rule applied to its identifier without a leading `r#`, else
that identifier; the type name is the declared one unless `type_name` sets it.
Attributes with any other path are ignored.
-/

namespace HttpBlueprint.Derive

/-- A field of a struct declaration: its identifier and its attributes in order. -/
structure FieldDecl where
  ident : String
  attrs : List Attribute := []
  deriving Repr, Inhabited

/-- The kinds of item a derive can be asked for. -/
inductive ItemKind where
  | namedStruct
  | tupleStruct
  | unitStruct
  | enumeration
  | union
  deriving Repr, DecidableEq, Inhabited

/-- An item declaration: its name, its attributes in order, its kind, and its
fields (the variants of an enumeration) with their attributes. -/
structure Decl where
  name : String
  attrs : List Attribute := []
  kind : ItemKind
  fields : List FieldDecl := []
  deriving Repr, Inhabited

/-- What a derive produces. -/
structure Derived where
  /-- The traits implemented, in order. -/
  traits : List String := ["Aggregate", "From"]
  typeName : String
  /-- The keys of the record's fields. -/
  fields : List String
  /-- The identifiers of the fields whose values the record holds. -/
  valueFields : List String
  deriving Repr, Inhabited

/-- The record of a struct value, as the derived code builds it: the type name, and the
keys paired in order with the values of the listed fields, each field's value given by
`value`. -/
def Derived.record (d : Derived) (value : String → Value) : Record :=
  ⟨d.typeName, d.fields.zip (d.valueFields.map value)⟩

/-- The struct-level settings. -/
structure StructOptions where
  renameAll : Option RenameRule := none
  typeName : Option String := none

/-- The field-level settings. -/
structure FieldOptions where
  skip : Bool := false
  rename : Option String := none

/-- The list of rules, as refusals spell it. -/
def ruleNames : String :=
  "lowercase, UPPERCASE, camelCase, PascalCase, snake_case, SCREAMING_SNAKE_CASE, kebab-case"

/-- The refusal of text that is no token stream. -/
def notTokens : String := "cannot parse string into token stream"

/-- The tokens of each attribute. -/
def attributeTokens (attrs : List Attribute) : Except String (List (List Token)) :=
  attrs.mapM fun a => match Token.scan? a.text with
    | some ts => pure ts
    | none => throw notTokens

/-- The forms of attributes, each with the tokens left after it. -/
def readMetas (tokens : List (List Token)) : Except String (List (Meta × List Token)) :=
  tokens.mapM readMeta

/-- Reads one struct-level item. -/
def structStep (o : StructOptions) (p : Path) (ts : List Token) :
    Except String (StructOptions × List Token) :=
  if p.isIdent "rename_all" then do
    let (v, rest) ← stringValue ts
    match RenameRule.parse? v with
    | some r => pure ({ o with renameAll := some r }, rest)
    | none => throw ("unknown rename_all value: \"" ++ v ++ "\". Expected one of: " ++ ruleNames)
  else if p.isIdent "type_name" then do
    let (v, rest) ← stringValue ts
    pure ({ o with typeName := some v }, rest)
  else throw "unsupported aggregate attribute"

/-- Reads one field-level item. -/
def fieldStep (o : FieldOptions) (p : Path) (ts : List Token) :
    Except String (FieldOptions × List Token) :=
  if p.isIdent "skip" then pure ({ o with skip := true }, ts)
  else if p.isIdent "rename" then do
    let (v, rest) ← stringValue ts
    pure ({ o with rename := some v }, rest)
  else throw "unsupported aggregate field attribute"

/-- Reads the `aggregate` attributes among `metas` in order with `step`. -/
def readOptions {σ : Type} (step : σ → Path → List Token → Except String (σ × List Token))
    (init : σ) (metas : List Meta) : Except String σ :=
  metas.foldlM (fun st m => do
    match ← aggregateArgs m with
    | some args => nestedItems step st args
    | none => pure st) init

/-- Drops a leading `r#` from an identifier. -/
def stripRaw (ident : String) : String :=
  match ident.toList with
  | 'r' :: '#' :: rest => String.ofList rest
  | _ => ident

/-- The key of a field. -/
def fieldKey (rule : Option RenameRule) (f : FieldDecl) (o : FieldOptions) : String :=
  match o.rename, rule with
  | some r, _ => r
  | none, some rule => rule.apply (stripRaw f.ident)
  | none, none => stripRaw f.ident

/-- Derives an aggregate, or gives the refusal's message. The text must be tokens,
and every attribute must read, before any is applied; tokens left in an attribute
are refused only when all read. -/
def deriveAggregate (d : Decl) : Except String Derived := do
  let structTokens ← attributeTokens d.attrs
  let fieldTokens ← d.fields.mapM (attributeTokens ·.attrs)
  let structMetas ← readMetas structTokens
  let fieldMetas ← fieldTokens.mapM readMetas
  if (structMetas ++ fieldMetas.flatten).any (!·.2.isEmpty) then
    throw "unexpected token, expected `]`"
  let so ← readOptions structStep {} (structMetas.map (·.1))
  match d.kind with
  | .namedStruct => pure ()
  | .tupleStruct | .unitStruct => throw "Aggregate derive only supports structs with named fields"
  | .enumeration | .union => throw "Aggregate derive only supports structs"
  let kept ← (d.fields.zip fieldMetas).foldlM (fun acc (f, metas) => do
    let fo ← readOptions fieldStep {} (metas.map (·.1))
    pure (if fo.skip then acc else acc ++ [(fieldKey so.renameAll f fo, f.ident)])) []
  pure { typeName := so.typeName.getD d.name, fields := kept.map (·.1), valueFields := kept.map (·.2) }

end HttpBlueprint.Derive
