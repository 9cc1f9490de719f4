/-!
# Ordered multimaps

A multimap binds keys to lists of values. Keys keep the order in which they were
first bound, each key appears once, and its values keep their order, duplicates
included. Keys are compared exactly, or, in a case-insensitive multimap, ignoring
ASCII case. `append` adds values after those bound to a key; `replace` rebinds the
key, in place and under the new spelling, or adds it at the end.
-/

namespace HttpBlueprint

/-- The form of a key that comparison sees: the key itself, or its ASCII lower case. -/
def keyClass (caseInsensitive : Bool) (k : String) : String :=
  if caseInsensitive then k.map Char.toLower else k

/-- Whether two keys are the same key: they have the same class. -/
def keyMatches (caseInsensitive : Bool) (a b : String) : Bool :=
  keyClass caseInsensitive a == keyClass caseInsensitive b

theorem keyMatches_iff {ci : Bool} {a b : String} :
    keyMatches ci a b = true ↔ keyClass ci a = keyClass ci b := beq_iff_eq

/-- A key that matches a second key matches a third one exactly when the second does. -/
theorem keyMatches_congr {ci : Bool} {a b : String} (h : keyMatches ci a b = true) (c : String) :
    keyMatches ci a c = keyMatches ci b c := by
  simp only [keyMatches, keyMatches_iff.1 h]

/-- A key that matches a second key but not a third one: the second does not match the third. -/
theorem keyMatches_eq_false_of {ci : Bool} {a b c : String} (hab : keyMatches ci a b = false)
    (hac : keyMatches ci a c = true) : keyMatches ci b c = false := by
  cases hbc : keyMatches ci b c
  · rfl
  · have := keyMatches_iff.2 ((keyMatches_iff.1 hac).trans (keyMatches_iff.1 hbc).symm)
    rw [hab] at this
    exact absurd this Bool.false_ne_true

/-- An ordered multimap. -/
structure Multimap (α : Type) where
  entries : List (String × List α) := []
  caseInsensitive : Bool := false
  deriving Inhabited

namespace Multimap

variable {α : Type}

/-- An empty multimap with exact keys. -/
def empty : Multimap α := {}

/-- An empty multimap with keys compared ignoring ASCII case. -/
def emptyCaseInsensitive : Multimap α := { caseInsensitive := true }

/-- Adds values after those of the first entry of the key, or a new entry. -/
def appendEntries (ci : Bool) (key : String) (vals : List α) :
    List (String × List α) → List (String × List α)
  | [] => [(key, vals)]
  | (k, vs) :: rest =>
    if keyMatches ci k key then (k, vs ++ vals) :: rest
    else (k, vs) :: appendEntries ci key vals rest

/-- Rebinds the first entry of the key, or adds a new entry. -/
def replaceEntries (ci : Bool) (key : String) (vals : List α) :
    List (String × List α) → List (String × List α)
  | [] => [(key, vals)]
  | (k, vs) :: rest =>
    if keyMatches ci k key then (key, vals) :: rest
    else (k, vs) :: replaceEntries ci key vals rest

/-- Appends values to a key. -/
def append (m : Multimap α) (key : String) (vals : List α) : Multimap α :=
  { m with entries := appendEntries m.caseInsensitive key vals m.entries }

/-- Replaces the values of a key. -/
def replace (m : Multimap α) (key : String) (vals : List α) : Multimap α :=
  { m with entries := replaceEntries m.caseInsensitive key vals m.entries }

/-- The values of the first entry of a key. -/
def lookupEntries (ci : Bool) (es : List (String × List α)) (key : String) : Option (List α) :=
  (es.find? fun e => keyMatches ci e.1 key).map (·.2)

/-- The values of a key, if it is bound. -/
def get? (m : Multimap α) (key : String) : Option (List α) :=
  lookupEntries m.caseInsensitive m.entries key

/-! ## Look-ups after a write -/

@[simp] theorem lookupEntries_nil (ci : Bool) (key : String) :
    lookupEntries ci ([] : List (String × List α)) key = none := rfl

theorem lookupEntries_cons (ci : Bool) (k : String) (vs : List α) (es : List (String × List α))
    (key : String) :
    lookupEntries ci ((k, vs) :: es) key =
      if keyMatches ci k key then some vs else lookupEntries ci es key := by
  unfold lookupEntries
  by_cases h : keyMatches ci k key <;> simp [h]

/-- Appending to a key adds the values after those of its class and leaves every
other class alone. -/
theorem lookupEntries_appendEntries (ci : Bool) (key k : String) (vals : List α)
    (es : List (String × List α)) :
    lookupEntries ci (appendEntries ci key vals es) k =
      if keyMatches ci key k then some ((lookupEntries ci es k).getD [] ++ vals)
      else lookupEntries ci es k := by
  induction es with
  | nil => by_cases hk : keyMatches ci key k <;> simp [appendEntries, lookupEntries_cons, hk]
  | cons e rest ih =>
    obtain ⟨k0, vs⟩ := e
    by_cases h0 : keyMatches ci k0 key
    · by_cases hk : keyMatches ci key k <;>
        simp [appendEntries, lookupEntries_cons, h0, hk, keyMatches_congr h0 k]
    · by_cases h1 : keyMatches ci k0 k
      · have hk := keyMatches_eq_false_of (Bool.eq_false_iff.2 h0) h1
        simp [appendEntries, lookupEntries_cons, h0, h1, hk]
      · simp [appendEntries, lookupEntries_cons, h0, h1, ih]

/-- Replacing a key binds its class to the new values and leaves every other class
alone. -/
theorem lookupEntries_replaceEntries (ci : Bool) (key k : String) (vals : List α)
    (es : List (String × List α)) :
    lookupEntries ci (replaceEntries ci key vals es) k =
      if keyMatches ci key k then some vals else lookupEntries ci es k := by
  induction es with
  | nil => by_cases hk : keyMatches ci key k <;> simp [replaceEntries, lookupEntries_cons, hk]
  | cons e rest ih =>
    obtain ⟨k0, vs⟩ := e
    by_cases h0 : keyMatches ci k0 key
    · by_cases hk : keyMatches ci key k <;>
        simp [replaceEntries, lookupEntries_cons, h0, hk, keyMatches_congr h0 k]
    · by_cases h1 : keyMatches ci k0 k
      · have hk := keyMatches_eq_false_of (Bool.eq_false_iff.2 h0) h1
        simp [replaceEntries, lookupEntries_cons, h0, h1, hk]
      · simp [replaceEntries, lookupEntries_cons, h0, h1, ih]

theorem get?_append (m : Multimap α) (key k : String) (vals : List α) :
    (m.append key vals).get? k =
      if keyMatches m.caseInsensitive key k then some ((m.get? k).getD [] ++ vals) else m.get? k :=
  lookupEntries_appendEntries m.caseInsensitive key k vals m.entries

theorem get?_replace (m : Multimap α) (key k : String) (vals : List α) :
    (m.replace key vals).get? k =
      if keyMatches m.caseInsensitive key k then some vals else m.get? k :=
  lookupEntries_replaceEntries m.caseInsensitive key k vals m.entries

/-- The number of keys. -/
def size (m : Multimap α) : Nat := m.entries.length

/-- Whether no key is bound. -/
def isEmpty (m : Multimap α) : Bool := m.entries.isEmpty

end Multimap

end HttpBlueprint
