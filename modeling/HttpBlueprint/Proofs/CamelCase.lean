import HttpBlueprint.Proofs.Basic
import HttpBlueprint.Derive.Rename
/-!
# Camel case by words

`RenameRule.camel` joins the words of a `snake_case` name in one pass over its characters
with two flags: whether the next character is upper-cased, and whether anything has been
written. It means what a reader expects of it: split the name at every `_`, drop the
empty words, and join the rest, upper-casing the first character of every word after the
first, and of the first word too for `PascalCase` (`camelCase_words`). The second flag is
what makes leading, repeated and trailing underscores vanish: before anything is written
an `_` leaves the first word as the convention has it, and after that an `_` only marks
the next word.

The two readings are tied by one lemma for each state of the second flag:
`joinWords_started` follows the pieces between `_` once something is written, and
`joinWords_unstarted` drops the empty pieces in front of the first word.
-/

namespace HttpBlueprint.Derive

namespace RenameRule

/-- A word with its first character upper-cased, to one or more characters. -/
def capitalize : List Char → List Char
  | [] => []
  | c :: rest => CaseMap.upperChar c ++ rest

/-- Words joined, each one after the first with its first character upper-cased, and the
first one too when `first` is set. -/
def joinCapitalized (first : Bool) : List (List Char) → List Char
  | [] => []
  | w :: ws => (if first then capitalize w else w) ++ (ws.map capitalize).flatten

/-- The words of a `snake_case` name: its pieces between `_`, empty ones dropped. -/
def nameWords (name : String) : List (List Char) :=
  (name.toList.splitOn '_').filter (· ≠ [])

/-- With every word capitalized, the empty ones add nothing. -/
theorem flatten_map_capitalize_filter (ws : List (List Char)) :
    ((ws.filter (· ≠ [])).map capitalize).flatten = (ws.map capitalize).flatten := by
  induction ws with
  | nil => rfl
  | cons w ws ih =>
    -- an empty word is filtered out and capitalizes to nothing
    cases w <;> simpa [capitalize] using ih

theorem joinCapitalized_true (ws : List (List Char)) :
    joinCapitalized true ws = (ws.map capitalize).flatten := by
  cases ws <;> simp [joinCapitalized]

variable (pascal : Bool)

/-- Once something is written, the join follows the pieces between `_`, the first piece
upper-cased when `cap` is set: an `_` marks the next word, and an empty piece adds
nothing. -/
theorem joinWords_started : ∀ (cs : List Char) (cap : Bool),
    joinWords pascal cs cap true = joinCapitalized cap (cs.splitOn '_')
  | [], cap => by cases cap <;> rfl
  | c :: rest, cap => by
    by_cases hc : c = '_'
    · subst hc
      rw [joinWords, if_pos (beq_self_eq_true '_'), Bool.true_or, joinWords_started rest true,
        List.splitOn_cons_eq_if_modifyHead, if_pos (beq_self_eq_true '_'), joinCapitalized_true]
      cases cap <;> simp [joinCapitalized, capitalize]
    · -- `c` starts the first piece
      obtain ⟨w, ws, hsplit⟩ := List.exists_cons_of_ne_nil (List.splitOn_ne_nil '_' rest)
      have ih := joinWords_started rest false
      rw [hsplit] at ih
      have hbeq : (c == '_') = false := by simpa using hc
      simp only [joinWords, hbeq, Bool.false_eq_true, if_false, List.splitOn_cons_eq_if_modifyHead,
        hsplit, List.modifyHead_cons, ih]
      cases cap <;> simp [joinCapitalized, capitalize]

/-- Before anything is written, an `_` keeps the first word's flag as the convention sets
it, so the join is that of the non-empty pieces. -/
theorem joinWords_unstarted : ∀ cs : List Char,
    joinWords pascal cs pascal false = joinCapitalized pascal ((cs.splitOn '_').filter (· ≠ []))
  | [] => by cases pascal <;> rfl
  | c :: rest => by
    by_cases hc : c = '_'
    · subst hc
      simp [joinWords, List.splitOn_cons_eq_if_modifyHead, joinWords_unstarted rest]
    · -- `c` starts the first word, which is not empty
      obtain ⟨w, ws, hsplit⟩ := List.exists_cons_of_ne_nil (List.splitOn_ne_nil '_' rest)
      have hstarted := joinWords_started pascal rest false
      rw [hsplit] at hstarted
      have hbeq : ¬(c == '_') = true := by simpa using hc
      have hwords : ((c :: rest).splitOn '_').filter (· ≠ []) = (c :: w) :: ws.filter (· ≠ []) := by
        rw [List.splitOn_cons_eq_if_modifyHead, if_neg hbeq, hsplit, List.modifyHead_cons,
          List.filter_cons_of_pos (by simp)]
      rw [hwords, joinCapitalized, flatten_map_capitalize_filter, joinWords, if_neg hbeq, hstarted]
      cases pascal <;> simp [joinCapitalized, capitalize]

end RenameRule

open RenameRule

/-- **Camel case by words.** The camel-case form of a name joins its words (its pieces
between `_`, the empty ones dropped), upper-casing the first character of every word after
the first and of the first word too when `pascal` is set, and leaving every other
character as it is; `camelCase` is this with the first word kept and `PascalCase` with it
upper-cased. -/
theorem camelCase_words :
    (∀ (name : String) (pascal : Bool),
      camel name pascal = String.ofList (joinCapitalized pascal (nameWords name))) ∧
    (∀ name, apply .camelCase name = String.ofList (joinCapitalized false (nameWords name))) ∧
    ∀ name, apply .pascalCase name = String.ofList (joinCapitalized true (nameWords name)) := by
  have hcamel : ∀ (name : String) (pascal : Bool),
      camel name pascal = String.ofList (joinCapitalized pascal (nameWords name)) := by
    intro name pascal
    rw [camel, joinWords_unstarted, nameWords]
  exact ⟨hcamel, fun name => hcamel name false, fun name => hcamel name true⟩

example : apply .camelCase "__page__size_" = "pageSize" := by decide

example : apply .pascalCase "straße_name" = "StraßeName" := by decide

end HttpBlueprint.Derive
