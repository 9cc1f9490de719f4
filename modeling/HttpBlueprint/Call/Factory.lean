import HttpBlueprint.Call.Arguments
import HttpBlueprint.Call.QueryMap
import HttpBlueprint.Template.Resolve
/-!
# Template factories

A factory turns each call's arguments into a resolved template:

1. the blueprint's target is set from the factory's target, or from the URL
   argument (which may not be null) when the method has one;
2. aggregate arguments are expanded and the variables bound;
3. the body is encoded as the strategy says: the form parameters' variables as a
   form map (those names then count as encoded), or the body argument (which may
   not be null), or all arguments;
4. the names at encoded positions are marked encoded and the template resolved;
5. the query map and then the header map argument are merged.

An encoder failure becomes an encoding failure. `Outcome.encoded` lists the
payloads handed to the encoder, so a caller can see whether and with what the
encoder was called even when the call then failed.

A resolver holds the encoder and query-map encoder that every factory uses, and
chooses each method's strategy and expanders: the explicit expanders when there
are any, and the factories' products otherwise.
-/

namespace HttpBlueprint

/-- Where requests go: a name and a base URL. -/
structure Target where
  name : String
  url : String
  deriving Repr, DecidableEq, Inhabited

/-- A target named by its URL. -/
def Target.ofUrl (url : String) : Target := ⟨url, url⟩

/-- The collaborators every factory uses. -/
structure Resolver where
  encoder : Encoder
  queryMapEncoder : QueryMapEncoder

/-- The result of one call and the payloads handed to the encoder. -/
structure Outcome where
  result : Except Error Template
  encoded : List (Value × BodyType)

/-- Builds the template of one call of a method. -/
structure Factory where
  metadata : CallMetadata
  strategy : Strategy
  target : Target
  expanders : List (Nat × Expander)
  encoder : Encoder
  queryMapEncoder : QueryMapEncoder

namespace Resolver

/-- JSON and form bodies, and field query maps. -/
def withDefaults : Resolver := ⟨Encoder.form Encoder.json, QueryMapEncoder.fields⟩

/-- A resolver from the collaborators given; the encoder is checked first. -/
def build (encoder : Option Encoder) (queryMapEncoder : Option QueryMapEncoder) :
    Except Error Resolver :=
  match encoder, queryMapEncoder with
  | none, _ => .error (.construction "encoder")
  | some _, none => .error (.construction "query map encoder")
  | some e, some q => .ok ⟨e, q⟩

/-- The factory of a method. -/
def resolve (r : Resolver) (target : Target) (m : CallMetadata) : Factory :=
  { metadata := m, strategy := Strategy.select m, target,
    expanders := if m.indexToExpander.isEmpty then m.indexToExpanderFactory else m.indexToExpander,
    encoder := r.encoder, queryMapEncoder := r.queryMapEncoder }

end Resolver

namespace Factory

/-- Sets the target from the URL argument. -/
def overrideTarget (t : Template) (argv : List Value) (i : Nat) : Except Error Template := do
  let v ← argument argv i
  if v.isNull then throw (.invalidArgument ("URI parameter " ++ toString i ++ " was null"))
  pure (t.withTarget v.display)

/-- The seeded template, the expanded arguments and the variables of a call. -/
def prepare (f : Factory) (argv : List Value) :
    Except Error (Template × List Value × Variables) := do
  let t := f.metadata.template.withTarget f.target.url
  let t ← match f.metadata.urlIndex with
    | some i => overrideTarget t argv i
    | none => pure t
  let args := expandArguments argv f.metadata.indexToExpand
  let vars ← bindVariables args f.metadata.indexToName f.expanders
  pure (t, args, vars)

/-- What the strategy hands to the encoder, if anything, and the template then. -/
def payload (f : Factory) (t : Template) (args : List Value) (vars : Variables) :
    Except Error (Option (Template × Value × BodyType)) :=
  match f.strategy with
  | .plain => .ok none
  | .formEncoded =>
    let params := f.metadata.formParams
    .ok (some (t.markEncoded params, (vars.filter (params.contains ·)).toValue, .formMap))
  | .bodyEncoded =>
    if f.metadata.alwaysEncodeBody then .ok (some (t, .list args, .arguments))
    else do
      let i := f.metadata.bodyIndex.getD 0
      let v ← argument args i
      if v.isNull then throw (.invalidArgument ("Body parameter " ++ toString i ++ " was null"))
      pure (some (t, v, f.metadata.bodyType))

/-- Marks encoded names, resolves, and merges the map arguments. -/
def finish (f : Factory) (args : List Value) (vars : Variables) (t : Template) :
    Except Error Template := do
  let t ← (t.markEncoded f.metadata.encodedNames).resolve vars
  let t ← match f.metadata.queryMapIndex with
    | some i => t.mergeQueryMap (← argument args i) f.queryMapEncoder
    | none => pure t
  match f.metadata.headerMapIndex with
  | some i => t.mergeHeaderMap (← argument args i) f.queryMapEncoder
  | none => pure t

/-- The template of one call. -/
def create (f : Factory) (argv : List Value) : Outcome :=
  match f.prepare argv with
  | .error e => ⟨.error e, []⟩
  | .ok (t, args, vars) =>
    match f.payload t args vars with
    | .error e => ⟨.error e, []⟩
    | .ok none => ⟨f.finish args vars t, []⟩
    | .ok (some (t, p, bt)) =>
      ⟨(f.encoder.encode p bt t).mapError Error.intoEncode >>= f.finish args vars, [(p, bt)]⟩

end Factory

end HttpBlueprint
