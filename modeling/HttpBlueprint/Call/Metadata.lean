import HttpBlueprint.Template.Basic
import HttpBlueprint.Body.Encoder
import HttpBlueprint.Call.Expander
/-!
# Call metadata

The static description of one API method: its blueprint template and how each
argument position feeds it. Positions map to names (several names may share a
position), to the field order of an aggregate to expand in place, to an expander
or an expander factory. The metadata also names the form parameters, the body
position and its type, whether all arguments form the body, the positions of the
URL, the query map and the header map, and the positions whose values are already
percent-encoded.

Maps keyed by position are kept sorted by position; setting a position again
replaces its entry, except that names accumulate.

`Strategy.select` decides how a call's body is built: from the form parameters
when there are some and no body template, else from a body argument when there is
a body position or all arguments form the body, else not at all.
-/

namespace HttpBlueprint

/-- Sets the entry of a key in a list sorted by key. -/
def setAt {α : Type} (k : Nat) (v : α) : List (Nat × α) → List (Nat × α)
  | [] => [(k, v)]
  | (k', v') :: rest =>
    if k = k' then (k, v) :: rest
    else if k < k' then (k, v) :: (k', v') :: rest
    else (k', v') :: setAt k v rest

/-- The entry of a key in a list of pairs. -/
def entryAt? {α : Type} (k : Nat) (xs : List (Nat × α)) : Option α :=
  (xs.find? (·.1 == k)).map (·.2)

/-- Inserts a number into a sorted list of distinct numbers. -/
def insertIndex (k : Nat) : List Nat → List Nat
  | [] => [k]
  | k' :: rest => if k = k' then k' :: rest else if k < k' then k :: k' :: rest else k' :: insertIndex k rest

/-- The static description of an API method. -/
structure CallMetadata where
  configKey : String := ""
  template : Template
  indexToName : List (Nat × List String) := []
  indexToExpand : List (Nat × FieldOrder) := []
  indexToExpander : List (Nat × Expander) := []
  indexToExpanderFactory : List (Nat × Expander) := []
  formParams : List String := []
  bodyIndex : Option Nat := none
  bodyType : BodyType := .any
  alwaysEncodeBody : Bool := false
  urlIndex : Option Nat := none
  queryMapIndex : Option Nat := none
  headerMapIndex : Option Nat := none
  indexToEncoded : List Nat := []

namespace CallMetadata

/-- Adds a name at a position. -/
def name (m : CallMetadata) (i : Nat) (n : String) : CallMetadata :=
  { m with indexToName := setAt i ((entryAt? i m.indexToName).getD [] ++ [n]) m.indexToName }

/-- Expands the aggregate at a position along a field order. -/
def expand (m : CallMetadata) (i : Nat) (order : FieldOrder) : CallMetadata :=
  { m with indexToExpand := setAt i order m.indexToExpand }

/-- Sets the expander of a position. -/
def expander (m : CallMetadata) (i : Nat) (e : Expander) : CallMetadata :=
  { m with indexToExpander := setAt i e m.indexToExpander }

/-- Sets the expander factory of a position. -/
def expanderFactory (m : CallMetadata) (i : Nat) (e : Expander) : CallMetadata :=
  { m with indexToExpanderFactory := setAt i e m.indexToExpanderFactory }

/-- Adds a form parameter. -/
def formParam (m : CallMetadata) (n : String) : CallMetadata :=
  { m with formParams := insertName n m.formParams }

/-- Sets the body position and type. -/
def body (m : CallMetadata) (i : Nat) (bt : BodyType) : CallMetadata :=
  { m with bodyIndex := some i, bodyType := bt }

/-- Marks a position as already percent-encoded. -/
def encoded (m : CallMetadata) (i : Nat) : CallMetadata :=
  { m with indexToEncoded := insertIndex i m.indexToEncoded }

/-- The names bound at a position. -/
def namesAt (m : CallMetadata) (i : Nat) : List String :=
  (entryAt? i m.indexToName).getD []

/-- The names bound at already encoded positions, in position order. -/
def encodedNames (m : CallMetadata) : List String :=
  m.indexToEncoded.flatMap m.namesAt

end CallMetadata

/-- How a call's body is built. -/
inductive Strategy where
  | plain
  | formEncoded
  | bodyEncoded
  deriving Repr, DecidableEq, Inhabited

namespace Strategy

/-- The name of a strategy. -/
def name : Strategy → String
  | .plain => "plain"
  | .formEncoded => "form-encoded"
  | .bodyEncoded => "body-encoded"

/-- The strategy of a method. -/
def select (m : CallMetadata) : Strategy :=
  if !m.formParams.isEmpty && m.template.bodyTemplate.isNone then .formEncoded
  else if m.bodyIndex.isSome || m.alwaysEncodeBody then .bodyEncoded
  else .plain

end Strategy

end HttpBlueprint
