/-!
# Binary64 words

A binary64 word is a sign, an eleven-bit biased exponent and a 52-bit fraction.
`Binary64.ofBits` reads it as NaN, a signed infinity, or a signed finite value
`mant · 2 ^ exp` (zero has `mant = 0`); `Binary64.toBits` goes the other way for
a value given as a quotient of naturals, rounding to nearest with ties to even.
Both sides work on naturals only, so the digits printed for a value and the value
read from digits are computed exactly.
-/

namespace HttpBlueprint.Decimal

/-- What a binary64 word stands for. -/
inductive Binary64 where
  | nan
  | infinity (negative : Bool)
  /-- The value `mant · 2 ^ exp`, with its sign; zero has `mant = 0`. -/
  | finite (negative : Bool) (mant : Nat) (exp : Int)
  deriving Repr, DecidableEq

/-- Splits a binary64 word. A subnormal has exponent `-1074` and no hidden bit. -/
def Binary64.ofBits (w : UInt64) : Binary64 :=
  let n := w.toNat
  let negative := n / Nat.pow 2 63 == 1
  let biased : Nat := n / Nat.pow 2 52 % 2048
  let frac : Nat := n % Nat.pow 2 52
  if biased == 2047 then
    if frac == 0 then .infinity negative else .nan
  else if biased == 0 then .finite negative frac (-1074)
  else .finite negative (frac + Nat.pow 2 52) ((biased : Int) - 1075)

/-- The parts of a float. -/
def Binary64.ofFloat (x : Float) : Binary64 := ofBits x.toBits

/-- Whether a word stands for a finite value. -/
def Binary64.isFinite : Binary64 → Bool
  | .finite .. => true
  | _ => false

/-- `⌊log₂ (num / den)⌋` for positive `num` and `den`. -/
def floorLog2 (num den : Nat) : Int :=
  let l : Int := (num.log2 : Int) - (den.log2 : Int)
  if num * Nat.pow 2 (-l).toNat ≥ den * Nat.pow 2 l.toNat then l else l - 1

/-- The sign bit. -/
def signBit (negative : Bool) : Nat := if negative then Nat.pow 2 63 else 0

/-- The binary64 word nearest to `num / den` (`den > 0`), ties to even, with the
given sign. A quotient too large for the format becomes infinity. -/
def roundToBits (negative : Bool) (num den : Nat) : UInt64 :=
  if num == 0 then (signBit negative).toUInt64 else
  let e2 : Int := max (floorLog2 num den - 52) (-1074)
  let n := num * Nat.pow 2 (-e2).toNat
  let d := den * Nat.pow 2 e2.toNat
  let q := n / d
  let r := n % d
  let q := if 2 * r > d || (2 * r == d && q % 2 == 1) then q + 1 else q
  -- rounding up may carry into a 54th bit: the value moves to the next binade
  let (q, e2) := if q == Nat.pow 2 53 then (Nat.pow 2 52, e2 + 1) else (q, e2)
  -- no hidden bit: a subnormal, whose biased exponent field is zero
  if q < Nat.pow 2 52 then (signBit negative + q).toUInt64
  else
    let biased := e2 + 1075
    if biased ≥ 2047 then (signBit negative + 2047 * Nat.pow 2 52).toUInt64
    else (signBit negative + biased.toNat * Nat.pow 2 52 + (q - Nat.pow 2 52)).toUInt64

end HttpBlueprint.Decimal
