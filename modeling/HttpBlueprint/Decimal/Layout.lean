import HttpBlueprint.Decimal.Shortest
/-!
# Number layouts

A layout writes the shortest digits of a binary64 value as text. It decides where
positional notation ends and an exponent starts, whether an integral value keeps a
`.0`, whether a positive exponent carries `+`, and what stands for NaN and the
infinities. Three layouts are used:

* `Layout.plain`, the text of a value inside other text: always positional,
  `1`, `-0`, `0.0000001`, `1000000000000000000000`, `NaN`, `inf`, and of two
  equally near shortest digit strings the larger (`2 ^ -25` is
  `0.000000029802322387695313`);
* `Layout.json`, numbers in JSON documents: `1.0`, `1e+20`, `2.5e-10`, no text
  for NaN or the infinities (they are written as `null`), and ties to the even
  digit (`2.9802322387695312e-8`);
* `Layout.form`, numbers in form bodies: as JSON but `1e20`, `NaN`, `inf`.

With `k` the place above the leading digit (`10 ^ (k - 1) ≤ |x| < 10 ^ k`), the
JSON and form layouts are positional for `-5 < k ≤ 16`.
-/

namespace HttpBlueprint.Decimal

/-- How a format writes numbers. -/
structure Layout where
  /-- The places `(lo, hi)` with positional notation for `lo < k ≤ hi`; `none`
  when every value is positional. -/
  positional : Option (Int × Int)
  /-- Written after an integral value in positional notation. -/
  integralMark : String
  /-- Whether a positive exponent is written with `+`. -/
  exponentPlus : Bool
  /-- The text of NaN, if the format has one. -/
  nan : Option String
  /-- The text of positive infinity, if the format has one; negative infinity
  is the same text after `-`. -/
  infinity : Option String
  /-- Which of two equally near shortest digit strings is written. -/
  tie : Tie

/-- `n` zero digits. -/
def zeros (n : Nat) : String := String.ofList (List.replicate n '0')

/-- Digits `ds` with the point after the first `k` of them, in positional form. -/
def Layout.positionalText (l : Layout) (ds : String) (k : Int) : String :=
  let len : Int := ds.length
  if k ≤ 0 then "0." ++ zeros (-k).toNat ++ ds
  else if k < len then
    String.ofList (ds.toList.take k.toNat) ++ "." ++ String.ofList (ds.toList.drop k.toNat)
  else ds ++ zeros (k - len).toNat ++ l.integralMark

/-- Digits `ds` with leading place `k`, in scientific form `d.ddde±x`. -/
def Layout.scientificText (l : Layout) (ds : String) (k : Int) : String :=
  let lead := String.ofList (ds.toList.take 1)
  let rest := String.ofList (ds.toList.drop 1)
  let mantissa := if rest.isEmpty then lead else lead ++ "." ++ rest
  let x := k - 1
  let sign := if x < 0 then "-" else if l.exponentPlus then "+" else ""
  mantissa ++ "e" ++ sign ++ toString x.natAbs

/-- The text of a nonnegative value given by its digits. -/
def Layout.digitsText (l : Layout) (d : Digits) : String :=
  let ds := toString d.digits
  let k := d.exp + ds.length
  match l.positional with
  | none => l.positionalText ds k
  | some (lo, hi) => if lo < k ∧ k ≤ hi then l.positionalText ds k else l.scientificText ds k

/-- The text of a value, or `none` when the layout has no text for it. -/
def Layout.write (l : Layout) (x : Float) : Option String :=
  match Binary64.ofFloat x with
  | .nan => l.nan
  | .infinity negative => l.infinity.map fun t => if negative then "-" ++ t else t
  | .finite negative m e =>
    let body := if m == 0 then l.digitsText ⟨0, 0⟩ else l.digitsText (shortest m e l.tie)
    some (if negative then "-" ++ body else body)

/-- Values inside other text: always positional, no `.0`. -/
def Layout.plain : Layout :=
  ⟨none, "", false, some "NaN", some "inf", .up⟩

/-- Numbers in JSON documents. -/
def Layout.json : Layout :=
  ⟨some (-5, 16), ".0", true, none, none, .toEven⟩

/-- Numbers in form bodies. -/
def Layout.form : Layout :=
  ⟨some (-5, 16), ".0", false, some "NaN", some "inf", .toEven⟩

/-- The plain text of a value. -/
def plainText (x : Float) : String := (Layout.plain.write x).getD "NaN"

end HttpBlueprint.Decimal
