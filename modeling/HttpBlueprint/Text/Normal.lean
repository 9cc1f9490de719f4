import HttpBlueprint.Text.Combining
import HttpBlueprint.Text.Decomposition
/-!
# Normalization Form C

Text in Normalization Form C is first decomposed canonically, its marks are put
in the canonical order, and then each mark is composed with the starter before it
wherever a primary composite exists and no mark of the same or a lower class, and
no starter, stands between them.

Hangul syllables decompose into their two or three jamo and compose back by
arithmetic on their code points.
-/

namespace HttpBlueprint.Normal

open Combining Decomposition

/-- The first Hangul syllable. -/
def hangulBase : Nat := 0xAC00

/-- The first leading consonant jamo. -/
def leadBase : Nat := 0x1100

/-- The first vowel jamo. -/
def vowelBase : Nat := 0x1161

/-- The code point before the first trailing consonant jamo: trailing consonant 0
stands for none. -/
def trailBase : Nat := 0x11A7

/-- The number of vowels. -/
def vowelCount : Nat := 21

/-- The number of trailing consonants, none included. -/
def trailCount : Nat := 28

/-- The number of Hangul syllables: 19 leading consonants, each with every vowel and
trailing consonant. -/
def syllableCount : Nat := 11172

/-- The canonical decomposition of a code point, itself when it has none. -/
def decompose (n : Nat) : List Nat :=
  if hangulBase ≤ n && n < hangulBase + syllableCount then
    let s := n - hangulBase
    let lead := leadBase + s / (vowelCount * trailCount)
    let vowel := vowelBase + s % (vowelCount * trailCount) / trailCount
    let trail := s % trailCount
    if trail == 0 then [lead, vowel] else [lead, vowel, trailBase + trail]
  else (decomposition? n).getD [n]

/-- The composite of two code points: a Hangul syllable from its jamo, or a primary
composite. -/
def compose? (a b : Nat) : Option Nat :=
  if leadBase ≤ a && a < leadBase + 19 && vowelBase ≤ b && b < vowelBase + vowelCount then
    some (hangulBase + ((a - leadBase) * vowelCount + (b - vowelBase)) * trailCount)
  else if hangulBase ≤ a && a < hangulBase + syllableCount && (a - hangulBase) % trailCount == 0 &&
      trailBase < b && b < trailBase + trailCount then
    some (a + (b - trailBase))
  else composite? a b

/-- Sorts a run of marks by combining class, keeping the order of equal classes. -/
def sortMarks (run : List Nat) : List Nat :=
  run.mergeSort fun a b => combiningClass a ≤ combiningClass b

/-- Puts marks in canonical order, `run` being the marks met since the last starter. -/
def reorderFrom (run : List Nat) : List Nat → List Nat
  | [] => sortMarks run
  | n :: rest =>
    if combiningClass n == 0 then sortMarks run ++ n :: reorderFrom [] rest
    else reorderFrom (run ++ [n]) rest

/-- The canonical order of decomposed text. -/
def reorder (ns : List Nat) : List Nat :=
  reorderFrom [] ns

/-- The state of composition: the code points kept, the position of the last
starter among them, and the class of the last one kept. -/
structure Composer where
  kept : Array Nat
  starter : Option Nat
  lastClass : Nat

/-- Takes one more code point: it joins the last starter when they compose and
nothing between them blocks it, and is kept otherwise. -/
def Composer.push (st : Composer) (n : Nat) : Composer :=
  let cls := combiningClass n
  let keep : Composer :=
    { kept := st.kept.push n,
      starter := if cls == 0 then some st.kept.size else st.starter,
      lastClass := cls }
  match st.starter with
  | some p =>
    match compose? (st.kept.getD p 0) n with
    | some c =>
      if st.lastClass < cls || st.lastClass == 0 then
        { st with kept := st.kept.setIfInBounds p c }
      else keep
    | none => keep
  | none => keep

/-- Composes canonically ordered, decomposed text. -/
def composeAll (ns : List Nat) : List Nat :=
  (ns.foldl Composer.push ⟨#[], none, 0⟩).kept.toList

/-- The code points of text in Normalization Form C. -/
def nfcCodes (ns : List Nat) : List Nat :=
  composeAll (reorder (ns.flatMap decompose))

/-- Text in Normalization Form C. -/
def nfc (cs : List Char) : List Char :=
  (nfcCodes (cs.map Char.toNat)).map Char.ofNat

/-- Whether text is in Normalization Form C. -/
def isNfc (cs : List Char) : Bool :=
  nfc cs == cs

end HttpBlueprint.Normal
