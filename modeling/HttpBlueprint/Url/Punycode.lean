/-!
# Punycode

The bootstring encoding of RFC 3492 with the Punycode parameters: a label is
written as its ASCII characters, a `-` when there are any, and then, for each
non-ASCII code point in increasing order, the distances between insertions as
variable-length base-36 numbers whose digit thresholds follow an adaptive bias.

Each loop has a measure: the bias adaptation divides `delta`, the digit writer
divides the remaining number, and the main loop walks the sorted list of code
points. Decoding reads the numbers back and inserts each code point where they
say; its arithmetic is on 32-bit words, and a sum or product that leaves them, a
digit that is no digit, or a number cut short makes the text no Punycode.
-/

namespace HttpBlueprint.Url.Punycode

/-- The digit of a value below 36: `a` to `z`, then `0` to `9`. -/
def digit (d : Nat) : Char :=
  if d < 26 then Char.ofNat (0x61 + d) else Char.ofNat (0x30 + d - 26)

/-- The threshold of the digit at position `k` (a multiple of 36). -/
def threshold (k bias : Nat) : Nat :=
  if k ≤ bias then 1 else if bias + 26 ≤ k then 26 else k - bias

theorem threshold_pos (k bias : Nat) : 1 ≤ threshold k bias := by
  unfold threshold; split <;> (try split) <;> omega

theorem threshold_le (k bias : Nat) : threshold k bias ≤ 26 := by
  unfold threshold; split <;> (try split) <;> omega

/-- Divides `delta` by 35 until it is at most 455, counting 36 per step. -/
def scaleDown (delta k : Nat) : Nat × Nat :=
  if 455 < delta then scaleDown (delta / 35) (k + 36) else (delta, k)
termination_by delta
decreasing_by exact Nat.div_lt_self (by omega) (by decide)

/-- The bias after an insertion. -/
def adapt (delta numPoints : Nat) (first : Bool) : Nat :=
  let d := if first then delta / 700 else delta / 2
  let d := d + d / numPoints
  let (d, k) := scaleDown d 0
  k + 36 * d / (d + 38)

/-- The digits of a number, starting at position `k`. -/
def digits (bias k q : Nat) : List Char :=
  let t := threshold k bias
  if q < t then [digit q]
  else digit (t + (q - t) % (36 - t)) :: digits bias (k + 36) ((q - t) / (36 - t))
termination_by q
decreasing_by
  have := threshold_pos k bias
  have := threshold_le k bias
  exact Nat.lt_of_le_of_lt (Nat.div_le_self _ _) (by omega)

/-- The state of the encoder: output so far, distance, bias, code points handled. -/
structure State where
  out : List Char
  delta : Nat
  bias : Nat
  handled : Nat

/-- Visits one input character while inserting the code point `m`. -/
def visit (basic m : Nat) (st : State) (c : Char) : State :=
  if c.toNat < m then { st with delta := st.delta + 1 }
  else if c.toNat == m then
    { out := st.out ++ digits st.bias 36 st.delta, delta := 0,
      bias := adapt st.delta (st.handled + 1) (st.handled == basic), handled := st.handled + 1 }
  else st

/-- Inserts the code points of a sorted list, `n` being the last one plus one. -/
def insertAll (input : List Char) (basic : Nat) : List Nat → Nat → State → State
  | [], _, st => st
  | m :: rest, n, st =>
    let st := { st with delta := st.delta + (m - n) * (st.handled + 1) }
    let st := input.foldl (visit basic m) st
    insertAll input basic rest (m + 1) { st with delta := st.delta + 1 }

/-- Inserts a number into a sorted list of distinct numbers. -/
def insertDistinct (x : Nat) : List Nat → List Nat
  | [] => [x]
  | y :: ys => if x < y then x :: y :: ys else if x == y then y :: ys else y :: insertDistinct x ys

/-- The Punycode form of a label, without the `xn--` prefix. -/
def encode (input : List Char) : List Char :=
  let basic := input.filter (·.toNat < 0x80)
  let points := (input.filter (0x80 ≤ ·.toNat)).foldr (fun c acc => insertDistinct c.toNat acc) []
  let st := insertAll input basic.length points 0x80 ⟨[], 0, 72, basic.length⟩
  basic ++ (if basic.isEmpty then [] else ['-']) ++ st.out

/-- The value of a digit: `a` to `z` (or `A` to `Z`) are 0 to 25, `0` to `9` are
26 to 35. -/
def digitValue (c : Char) : Option Nat :=
  let n := c.toNat
  if 0x61 ≤ n && n ≤ 0x7A then some (n - 0x61)
  else if 0x41 ≤ n && n ≤ 0x5A then some (n - 0x41)
  else if 0x30 ≤ n && n ≤ 0x39 then some (n - 0x30 + 26)
  else none

/-- The bound of the decoder's words. -/
def wordBound : Nat := Nat.pow 2 32

/-- Reads one number whose digits start at position `k` with weight `w`, adding it
to `i`; returns the sum and the rest of the input. -/
def readNumber (bias : Nat) : List Char → Nat → Nat → Nat → Option (Nat × List Char)
  | [], _, _, _ => none
  | c :: rest, k, w, i =>
    match digitValue c with
    | none => none
    | some d =>
      let i := i + d * w
      if wordBound ≤ d * w || wordBound ≤ i then none
      else
        let t := threshold k bias
        if d < t then some (i, rest)
        else if wordBound ≤ w * (36 - t) then none
        else readNumber bias rest (k + 36) (w * (36 - t)) i

theorem readNumber_length (bias : Nat) :
    ∀ (l : List Char) (k w i : Nat) (r : Nat × List Char),
      readNumber bias l k w i = some r → r.2.length < l.length
  | [], _, _, _, _, h => by simp [readNumber] at h
  | c :: rest, k, w, i, r, h => by
    rw [readNumber] at h
    split at h
    · simp at h
    · simp only at h
      split at h
      · simp at h
      · split at h
        · rw [← Option.some.inj h]; simp
        · split at h
          · simp at h
          · have := readNumber_length bias rest _ _ _ r h
            simp; omega

/-- Inserts the code points that the numbers of the input give into `out`, the
next code point being at least `n` and its position counted from `i`. -/
def insertAll? (bias n i : Nat) (out : List Char) : List Char → Option (List Char)
  | [] => some out
  | c :: rest =>
    match h : readNumber bias (c :: rest) 36 1 i with
    | none => none
    | some (j, more) =>
      let size := out.length + 1
      let n := n + j / size
      if wordBound ≤ n || (0xD800 ≤ n && n ≤ 0xDFFF) || 0x110000 ≤ n then none
      else
        let pos := j % size
        insertAll? (adapt (j - i) size (i == 0)) n (pos + 1) (out.insertIdx pos (Char.ofNat n)) more
termination_by l => l.length
decreasing_by
  have := readNumber_length bias (c :: rest) 36 1 i (j, more) h
  simpa using this

/-- The text that a Punycode form (without `xn--`) stands for. The ASCII characters
stand before the last `-`; text whose only `-` comes first is no Punycode. -/
def decode? (input : List Char) : Option (List Char) :=
  match input.reverse.span (· != '-') with
  | (tail, []) => insertAll? 72 0x80 0 [] tail.reverse
  | (_, _ :: []) => none
  | (tail, _ :: head) => insertAll? 72 0x80 0 head.reverse tail.reverse

end HttpBlueprint.Url.Punycode
