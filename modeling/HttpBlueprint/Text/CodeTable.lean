/-!
# Code point tables

Unicode data keyed by code point, kept as sorted keys beside their values. A range
table gives each key's value to every code point from that key up to the next key;
an exact table gives it to the key alone. Both are looked up by halving the range
of keys.

The data of a table is written as text: entries `key=value` separated by spaces,
the key in lower-case hexadecimal, so that a table of thousands of entries is one
literal that each table module reads once.
-/

namespace HttpBlueprint

/-- Values keyed by code points in increasing order. -/
structure CodeTable (α : Type) where
  keys : Array Nat
  values : Array α

namespace CodeTable

/-- The value of lower-case hexadecimal digits. -/
def hexValue (cs : List Char) : Nat :=
  cs.foldl (fun acc c => 16 * acc + (if c.isDigit then c.toNat - 0x30 else c.toNat - 0x61 + 10)) 0

/-- Numbers written in hexadecimal and separated by commas. -/
def hexList (cs : List Char) : List Nat :=
  if cs.isEmpty then [] else (cs.splitOn ',').map hexValue

/-- The entries of table text: its key and the text of its value. -/
def entries (text : String) : List (Nat × List Char) :=
  (text.toList.splitOn ' ').filterMap fun entry =>
    match entry.splitOn '=' with
    | [key, value] => some (hexValue key, value)
    | _ => none

/-- A table of entries given in increasing order of keys. -/
def ofEntries (es : List (Nat × α)) : CodeTable α :=
  ⟨(es.map (·.1)).toArray, (es.map (·.2)).toArray⟩

/-- A table read from text, each value read by `read`. -/
def ofText (read : List Char → α) (text : String) : CodeTable α :=
  ofEntries ((entries text).map fun (k, v) => (k, read v))

/-- The position of the last key at most `n`, searched between `lo` and `hi`,
where the key at `lo` is at most `n` and the key at `hi`, if any, is above it. -/
def lastAtMost (keys : Array Nat) (n lo hi : Nat) : Nat :=
  if lo + 1 < hi then
    let mid := (lo + hi) / 2
    if keys.getD mid 0 ≤ n then lastAtMost keys n mid hi else lastAtMost keys n lo mid
  else lo
termination_by hi - lo
decreasing_by all_goals omega

/-- The value of the last key at most `n`: the value of the range holding `n`. -/
def floor? (t : CodeTable α) (n : Nat) : Option α :=
  if t.keys.getD 0 (n + 1) ≤ n then t.values[lastAtMost t.keys n 0 t.keys.size]? else none

/-- The value of the key `n`. -/
def find? (t : CodeTable α) (n : Nat) : Option α :=
  if t.keys.getD 0 (n + 1) ≤ n then
    let i := lastAtMost t.keys n 0 t.keys.size
    if t.keys.getD i 0 == n then t.values[i]? else none
  else none

end CodeTable

end HttpBlueprint
