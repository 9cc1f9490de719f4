import HttpBlueprint.Url.Idna.Status
import HttpBlueprint.Url.Punycode
import HttpBlueprint.Text.Normal
import HttpBlueprint.Text.Bidi
import HttpBlueprint.Text.Joining
/-!
# Internationalized domain names

A domain of a URL is brought to ASCII as Unicode Technical Standard 46 says, with
deviations kept, joiners and bidirectional text checked, hyphens anywhere, and no
limit on lengths:

* each character is mapped by its status, and a disallowed one fails the domain;
  so does an ASCII control, space, DEL or one of `%#/:<>?@[\]^|` in the result;
* the result is put in Normalization Form C and cut into labels at full stops;
* a label that starts with `xn--` must be ASCII Punycode for a label that is not
  empty and not all ASCII, and is kept as written;
* every label must be in Normalization Form C, must not start with `xn--` (once
  decoded) or with a mark, may hold only valid characters and deviations, and must
  place its joiners as the joiner rules ask;
* when any label holds a right-to-left letter or an Arabic digit, every label must
  pass the six bidirectional rules.

A label that passes and is not ASCII is written as `xn--` and its Punycode form.
-/

namespace HttpBlueprint.Url.Idna

open Bidi Joining Combining

/-- Whether an ASCII character may not stand in the domain of a URL. -/
def isDenied (c : Char) : Bool :=
  c.toNat ≤ 0x20 || c.toNat == 0x7F || "%#/:<>?@[\\]^|".contains c

/-- The mapping of one character, none when it is disallowed. -/
def mapChar (c : Char) : Option (List Char) :=
  match status c with
  | .valid | .deviation => some [c]
  | .mapped r => some (r.map Char.ofNat)
  | .ignored => some []
  | .disallowed => none

/-- The mapping of a domain, none when a character is disallowed or denied. -/
def mapDomain (cs : List Char) : Option (List Char) := do
  let parts ← cs.mapM mapChar
  let mapped := parts.flatten
  if mapped.any isDenied then none else some mapped

/-- Whether a character may stand in a label: valid, or a deviation. -/
def isAllowed (c : Char) : Bool :=
  match status c with
  | .valid | .deviation => true
  | _ => false

/-- The zero-width non-joiner. -/
def nonJoiner : Char := Char.ofNat 0x200C

/-- The zero-width joiner. -/
def joiner : Char := Char.ofNat 0x200D

/-- Whether the first character that is not transparent to joining, in `cs`, has
one of the joining types `ok`. -/
def joinsAfterTransparent (ok : List JoiningType) (cs : List Char) : Bool :=
  match cs.dropWhile (joiningType · == .transparent) with
  | c :: _ => ok.contains (joiningType c)
  | [] => false

/-- Whether the joiners of a label stand where the joiner rules allow, `before`
holding the characters before the rest, nearest first: a joiner must follow a
virama, and a non-joiner must follow a virama or stand between a character that
joins to the right and one that joins to the left. -/
def joinersFrom (before : List Char) : List Char → Bool
  | [] => true
  | c :: rest =>
    let afterVirama := match before with
      | b :: _ => combiningClass b.toNat == viramaClass
      | [] => false
    let ok :=
      if c == joiner then afterVirama
      else if c == nonJoiner then
        afterVirama || (joinsAfterTransparent [.left, .dual] before &&
          joinsAfterTransparent [.right, .dual] rest)
      else true
    ok && joinersFrom (c :: before) rest

/-- Whether a character is written right to left or is an Arabic digit. -/
def isRtl (c : Char) : Bool :=
  match bidiClass c with
  | .r | .al | .an => true
  | _ => false

/-- The class of the last character of a label that is not a mark. -/
def lastClassBeforeMarks (label : List Char) : Option BidiClass :=
  (label.reverse.dropWhile (bidiClass · == .nsm)).head?.map bidiClass

/-- Whether a label passes the six bidirectional rules: it starts with a strong
character; a left-to-right label holds no right-to-left character and ends, marks
apart, in a left-to-right letter or a European digit; a right-to-left label holds
no left-to-right letter, ends in a right-to-left letter or a digit, and does not
hold digits of both kinds. -/
def bidiOk : List Char → Bool
  | [] => true
  | first :: rest =>
    let classes := rest.map bidiClass
    match bidiClass first with
    | .l =>
      classes.all [.l, .en, .es, .cs, .et, .on, .bn, .nsm].contains &&
        [some .l, some .en].contains (lastClassBeforeMarks (first :: rest))
    | .r | .al =>
      classes.all [.r, .al, .an, .en, .es, .cs, .et, .on, .bn, .nsm].contains &&
        [some .r, some .al, some .en, some .an].contains (lastClassBeforeMarks (first :: rest)) &&
        !(classes.contains .en && classes.contains .an)
    | _ => false

/-- Whether a label starts with `xn--`. -/
def hasAcePrefix (label : List Char) : Bool :=
  label.take 4 == ['x', 'n', '-', '-']

/-- Whether a label meets the validity criteria, bidirectional text apart. -/
def isValidLabel (label : List Char) : Bool :=
  Normal.isNfc label && !hasAcePrefix label &&
    !(label.head?.map isMark).getD false &&
    label.all isAllowed && joinersFrom [] label

/-- A label brought to ASCII: its Unicode text, and its ASCII form. -/
structure Label where
  text : List Char
  ascii : List Char

/-- Converts one label of a mapped, normalized domain. -/
def convertLabel (label : List Char) : Option Label :=
  if hasAcePrefix label then do
    if label.any (0x80 ≤ ·.toNat) then none
    let text ← Punycode.decode? (label.drop 4)
    if text.all (·.toNat < 0x80) || !isValidLabel text then none
    some ⟨text, label⟩
  else if isValidLabel label then
    some ⟨label, if label.all (·.toNat < 0x80) then label else "xn--".toList ++ Punycode.encode label⟩
  else none

/-- The ASCII form of a domain, none when it is not a valid domain name. -/
def toAscii (domain : List Char) : Option (List Char) := do
  let mapped ← mapDomain domain
  let labels ← ((Normal.nfc mapped).splitOn '.').mapM convertLabel
  if labels.any (·.text.any isRtl) && !labels.all (bidiOk ·.text) then none
  some (['.'].intercalate (labels.map (·.ascii)))

end HttpBlueprint.Url.Idna
