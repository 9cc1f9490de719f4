import HttpBlueprint.Decimal.Binary64
/-!
# Shortest decimal digits

Every finite nonzero binary64 value `m · 2 ^ e` is read back from any decimal in its
rounding interval: the reals between the halfway points to its two neighbours, ends
included exactly when `m` is even. `shortest m e` picks the decimal with the fewest
significant digits in that interval and, among those, the one nearest the value
(an exact tie goes to the even digit string).

The search runs over decimal grids of 1, 2, …, 17 significant digits. On each grid
only the two grid points around the value can be the nearest member of the interval,
so the first grid where one of them lies in the interval gives the answer. All
comparisons are exact products of naturals.
-/

namespace HttpBlueprint.Decimal

/-- Compares `a · 2 ^ p · 10 ^ q` with `b · 2 ^ r · 10 ^ s`. -/
def compareScaled (a : Nat) (p q : Int) (b : Nat) (r s : Int) : Ordering :=
  compare (a * Nat.pow 2 p.toNat * Nat.pow 10 q.toNat * Nat.pow 2 (-r).toNat * Nat.pow 10 (-s).toNat)
    (b * Nat.pow 2 r.toNat * Nat.pow 10 s.toNat * Nat.pow 2 (-p).toNat * Nat.pow 10 (-q).toNat)

/-- The number of decimal digits of a number (one for zero). -/
def digitCount (n : Nat) : Nat := (Nat.toDigits 10 n).length

/-- Which of two equally near candidates a format keeps. -/
inductive Tie where
  /-- The one whose last digit is even. -/
  | toEven
  /-- The larger one. -/
  | up
  deriving Repr, DecidableEq, Inhabited

/-- Significant digits `digits · 10 ^ exp`. -/
structure Digits where
  digits : Nat
  exp : Int
  deriving Repr, DecidableEq

/-- The place just above the leading digit of `m · 2 ^ e`: the `k` with
`10 ^ (k - 1) ≤ m · 2 ^ e < 10 ^ k`. Scaling by `10 ^ 340` lifts every positive
binary64 value above one, so the integer part has the right digit count. -/
def leadingPlace (m : Nat) (e : Int) : Int :=
  (digitCount (m * Nat.pow 2 e.toNat * Nat.pow 10 340 / Nat.pow 2 (-e).toNat) : Int) - 340

/-- The rounding interval of `m · 2 ^ e` in quarter units `2 ^ (e - 2)`: from
`4m - lowGap` to `4m + 2`. Below a power of two the lower neighbour is twice as
near, unless the value is the least normal one. -/
def lowGap (m : Nat) (e : Int) : Nat :=
  if m == Nat.pow 2 52 && e > -1074 then 1 else 2

/-- Whether `d · 10 ^ j` reads back as `m · 2 ^ e`. -/
def readsBack (m : Nat) (e : Int) (d : Nat) (j : Int) : Bool :=
  let closed := m % 2 == 0
  let below := compareScaled (4 * m - lowGap m e) (e - 2) 0 d 0 j
  let above := compareScaled d 0 j (4 * m + 2) (e - 2) 0
  (below == .lt || (closed && below == .eq)) && (above == .lt || (closed && above == .eq))

/-- The member of the grid of `n` significant digits nearest `m · 2 ^ e` within
its rounding interval, if the grid meets the interval; `tie` settles an exact tie. -/
def onGrid (m : Nat) (e : Int) (n : Nat) (tie : Tie) : Option Digits :=
  let j := leadingPlace m e - n
  let lo := m * Nat.pow 2 e.toNat * Nat.pow 10 (-j).toNat / (Nat.pow 2 (-e).toNat * Nat.pow 10 j.toNat)
  let hi := lo + 1
  match readsBack m e lo j, readsBack m e hi j with
  | true, true =>
    -- both neighbours read back: the nearer wins, an exact tie goes as `tie` says
    match compareScaled m (e + 1) 0 (2 * lo + 1) 0 j with
    | .lt => some ⟨lo, j⟩
    | .gt => some ⟨hi, j⟩
    | .eq => match tie with
      | .toEven => some ⟨if lo % 2 == 0 then lo else hi, j⟩
      | .up => some ⟨hi, j⟩
  | true, false => some ⟨lo, j⟩
  | false, true => some ⟨hi, j⟩
  | false, false => none

/-- Drops trailing zero digits. -/
def Digits.trim (x : Digits) : Digits :=
  if h : x.digits ≠ 0 ∧ x.digits % 10 = 0 then
    Digits.trim ⟨x.digits / 10, x.exp + 1⟩
  else x
termination_by x.digits
decreasing_by exact Nat.div_lt_self (Nat.pos_of_ne_zero h.1) (by decide)

/-- The shortest digits of the positive value `m · 2 ^ e` that read back as it,
the nearest of them, and of two equally near ones the one `tie` names. -/
def shortest (m : Nat) (e : Int) (tie : Tie) : Digits :=
  let found := (List.range 17).findSome? fun i => onGrid m e (i + 1) tie
  (found.getD ⟨m, 0⟩).trim

end HttpBlueprint.Decimal
