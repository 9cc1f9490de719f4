import HttpBlueprint.Decimal.Binary64
/-!
# Reading decimal text

`Decimal.read?` reads the float syntax of decimal text: an optional sign, then
`inf`, `infinity` or `nan` in any case, or digits with an optional point and an
optional exponent `e` or `E` with its own sign. At least one digit stands on one
side of the point. The value is rounded to nearest with ties to even, and an
exponent too large or too small for any binary64 value saturates to infinity or
zero, however many digits it has.
-/

namespace HttpBlueprint.Decimal

/-- The value of a run of decimal digits. -/
def digitsValue (ds : List Char) : Nat :=
  ds.foldl (fun acc c => 10 * acc + (c.toNat - '0'.toNat)) 0

/-- Splits off the leading digits. -/
def spanDigits (cs : List Char) : List Char × List Char :=
  (cs.takeWhile Char.isDigit, cs.dropWhile Char.isDigit)

/-- Splits off a leading sign: `true` when it is `-`. -/
def spanSign : List Char → Bool × List Char
  | '-' :: rest => (true, rest)
  | '+' :: rest => (false, rest)
  | cs => (false, cs)

/-- The exponent part `e±digits`, if it is well formed and ends the text. -/
def exponentPart? : List Char → Option Int
  | [] => some 0
  | c :: rest =>
    if c == 'e' || c == 'E' then
      let (neg, rest) := spanSign rest
      let (ds, tail) := spanDigits rest
      if ds.isEmpty || !tail.isEmpty then none
      else
        let v : Int := digitsValue ds
        some (if neg then -v else v)
    else none

/-- The finite value `mant · 10 ^ exp` with a sign, rounded to binary64. -/
def scientificBits (negative : Bool) (mant : Nat) (exp : Int) : UInt64 :=
  let places : Int := (Nat.toDigits 10 mant).length + exp
  if mant == 0 || places < -400 then (signBit negative).toUInt64
  else if places > 400 then (signBit negative + 2047 * Nat.pow 2 52).toUInt64
  else roundToBits negative (mant * Nat.pow 10 exp.toNat) (Nat.pow 10 (-exp).toNat)

/-- Reads a number written in digits, with a sign already removed. -/
def readDigits? (negative : Bool) (cs : List Char) : Option Float :=
  let (whole, rest) := spanDigits cs
  let (frac, rest) := match rest with
    | '.' :: r => spanDigits r
    | r => ([], r)
  if whole.isEmpty && frac.isEmpty then none
  else
    match exponentPart? rest with
    | none => none
    | some x =>
      some (Float.ofBits (scientificBits negative (digitsValue (whole ++ frac)) (x - frac.length)))

/-- Reads decimal float text. -/
def read? (s : String) : Option Float :=
  let (negative, rest) := spanSign s.toList
  let word := String.ofList (rest.map Char.toLower)
  let inf := Float.ofBits (2047 * Nat.pow 2 52).toUInt64
  if word == "inf" || word == "infinity" then some (if negative then -inf else inf)
  else if word == "nan" then some (Float.ofBits (2047 * Nat.pow 2 52 + Nat.pow 2 51).toUInt64)
  else readDigits? negative rest

end HttpBlueprint.Decimal
