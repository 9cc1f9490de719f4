import HttpBlueprint.Value.Basic
/-!
# Variables

The named values a template is resolved against, in the order they were first
bound. Binding a bound name again replaces its value in place.
-/

namespace HttpBlueprint

/-- Named values in binding order, each name once. -/
structure Variables where
  entries : List (String × Value) := []
  deriving Inhabited

namespace Variables

/-- Binds a value to a name, in place if the name is bound. -/
def insertEntries (name : String) (v : Value) :
    List (String × Value) → List (String × Value)
  | [] => [(name, v)]
  | (n, w) :: rest =>
    if n == name then (n, v) :: rest else (n, w) :: insertEntries name v rest

/-- Binds a value to a name. -/
def insert (vars : Variables) (name : String) (v : Value) : Variables :=
  ⟨insertEntries name v vars.entries⟩

/-- The value bound to a name. -/
def get? (vars : Variables) (name : String) : Option Value :=
  (vars.entries.find? (·.1 == name)).map (·.2)

/-! ## Look-ups -/

@[simp] theorem get?_empty (name : String) : ({} : Variables).get? name = none := rfl

theorem find?_insertEntries (name key : String) (v : Value) (es : List (String × Value)) :
    ((insertEntries name v es).find? (·.1 == key)).map (·.2) =
      if name = key then some v else (es.find? (·.1 == key)).map (·.2) := by
  induction es with
  | nil => by_cases h : name = key <;> simp [insertEntries, h]
  | cons e rest ih =>
    obtain ⟨n, w⟩ := e
    by_cases hn : n = name
    · subst hn
      by_cases h : n = key <;> simp [insertEntries, h]
    · by_cases h : n = key
      · subst h
        have : name ≠ n := fun h => hn h.symm
        simp [insertEntries, hn, this]
      · simp [insertEntries, hn, h, ih]

/-- A name is bound to the value it was bound to last; other names keep theirs. -/
theorem get?_insert (vars : Variables) (name key : String) (v : Value) :
    (vars.insert name v).get? key = if name = key then some v else vars.get? key :=
  find?_insertEntries name key v vars.entries

/-- The variables whose names pass a test, in order. -/
def filter (vars : Variables) (keep : String → Bool) : Variables :=
  ⟨vars.entries.filter (keep ·.1)⟩

/-- Binds each pair in turn. -/
def ofPairs (pairs : List (String × Value)) : Variables :=
  pairs.foldl (fun vars (n, v) => vars.insert n v) {}

/-- The number of names. -/
def size (vars : Variables) : Nat := vars.entries.length

/-- Whether nothing is bound. -/
def isEmpty (vars : Variables) : Bool := vars.entries.isEmpty

/-- The variables as a map value. -/
def toValue (vars : Variables) : Value := .map vars.entries

end Variables

end HttpBlueprint
