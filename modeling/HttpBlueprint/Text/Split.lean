/-!
# Splitting text at a character

`splitOnce` cuts a text at the first character that passes a test, dropping that
character; it gives nothing when no character passes. `splitAll` cuts a text at
every occurrence of a character, so `n` occurrences give `n + 1` parts.
-/

namespace HttpBlueprint.Text

/-- The parts before and after the first character that passes a test. -/
def splitOnceBy (p : Char → Bool) (s : String) : Option (String × String) :=
  match s.toList.span (fun c => !p c) with
  | (_, []) => none
  | (before, _ :: after) => some (String.ofList before, String.ofList after)

/-- The parts before and after the first occurrence of a character. -/
def splitOnce (s : String) (c : Char) : Option (String × String) :=
  splitOnceBy (· == c) s

/-- The parts of a text between the occurrences of a character. -/
def splitAll (s : String) (c : Char) : List String :=
  (s.toList.splitOn c).map String.ofList

end HttpBlueprint.Text
