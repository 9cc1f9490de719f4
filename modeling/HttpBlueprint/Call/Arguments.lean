import HttpBlueprint.Call.Metadata
import HttpBlueprint.Variables
/-!
# Arguments

The argument vector of a call, and the variables bound from it.

`expandArguments` replaces each record at a position flagged for expansion by
its field values along the position's field order, so every later position
lookup sees one slot per field. `bindVariables` visits the named positions in
increasing order; the value at a position with an expander becomes text (a list
becomes a list of texts without its nulls, and null stays null), and the value is
bound to every name of the position.
-/

namespace HttpBlueprint

/-- The argument at a position. -/
def argument (argv : List Value) (i : Nat) : Except Error Value :=
  match argv[i]? with
  | some v => .ok v
  | none => .error (.invalidArgument ("argument " ++ toString i ++ " is out of range (" ++
      toString argv.length ++ " arguments)"))

/-- Replaces flagged records by their field values. -/
def expandArguments (argv : List Value) (expand : List (Nat × FieldOrder)) : List Value :=
  if expand.isEmpty then argv
  else argv.zipIdx.flatMap fun (v, i) =>
    match entryAt? i expand, v with
    | some order, .record t fs => Record.valuesIn ⟨t, fs⟩ order
    | _, _ => [v]

/-- The value an expander makes of an argument. -/
def Expander.apply (e : Expander) : Value → Except Error Value
  | .null => .ok .null
  | .list items => do
    let texts ← (items.filter (!·.isNull)).mapM e.expand
    pure (.list (texts.map .str))
  | v => do pure (.str (← e.expand v))

/-- Binds the named positions' values, through their expanders. -/
def bindVariables (argv : List Value) (names : List (Nat × List String))
    (expanders : List (Nat × Expander)) : Except Error Variables :=
  names.foldlM (fun vars (i, ns) => do
    let v ← argument argv i
    let v ← match entryAt? i expanders with
      | some e => e.apply v
      | none => pure v
    pure (ns.foldl (fun vars n => vars.insert n v) vars)) {}

end HttpBlueprint
