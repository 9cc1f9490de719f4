import HttpBlueprint.Proofs.Injection
/-!
# Percent-encoding is a code

The two encodings a template uses for argument values write text that can be read
back. An encoded query component is made of unreserved characters and `%XX` escapes
only; an encoded path segment holds no ASCII control, space, `"`, `#`, `<`, `>`,
backtick, `?`, brace, slash, backslash or character beyond ASCII, and a `%` only at
the start of an escape (`Escaped`).

Both sets escape `%` itself, so percent-decoding (`percentDecode`, which reads `%` and
two hexadecimal digits as the byte they spell and every other byte as itself) gives
back exactly the UTF-8 bytes of the value. Hence both encodings are injective: no two
values are written alike.
-/

namespace HttpBlueprint

/-! ## Escaped text -/

/-- Text made of characters that `keep` allows, none of them `%`, and escapes `%XX`
with upper-case hexadecimal digits. -/
inductive Escaped (keep : Char → Bool) : List Char → Prop
  | nil : Escaped keep []
  | kept {c : Char} {rest : List Char} :
      keep c = true → c ≠ '%' → Escaped keep rest → Escaped keep (c :: rest)
  | escape {h₁ h₂ : Char} {rest : List Char} :
      isUpperHex h₁ = true → isUpperHex h₂ = true → Escaped keep rest →
        Escaped keep ('%' :: h₁ :: h₂ :: rest)

namespace Escaped

variable {keep : Char → Bool}

theorem append {xs ys : List Char} (hx : Escaped keep xs) (hy : Escaped keep ys) :
    Escaped keep (xs ++ ys) := by
  induction hx with
  | nil => exact hy
  | kept hc hpct _ ih => exact .kept hc hpct ih
  | escape h₁ h₂ _ ih => exact .escape h₁ h₂ ih

theorem flatMap {α : Type} {f : α → List Char} :
    ∀ {l : List α}, (∀ a ∈ l, Escaped keep (f a)) → Escaped keep (l.flatMap f)
  | [], _ => .nil
  | a :: rest, h => by
    rw [List.flatMap_cons]
    exact (h a List.mem_cons_self).append (flatMap fun b hb => h b (List.mem_cons_of_mem a hb))

end Escaped

/-- Query-safe text is escaped text whose kept characters are the unreserved ones. -/
theorem QuerySafe.escaped {cs : List Char} (h : QuerySafe cs) : Escaped isUnreserved cs := by
  induction h with
  | nil => exact .nil
  | unreserved hc _ ih =>
    refine .kept hc ?_ ih
    rintro rfl
    simp [isUnreserved] at hc
  | escape h₁ h₂ _ ih => exact .escape h₁ h₂ ih

/-- Characters a value written into a path may not carry as they are: ASCII controls,
space, `"`, `#`, `<`, `>`, backtick, `?`, braces, both slashes, and every character
beyond ASCII. -/
def pathForbidden (c : Char) : Bool :=
  c.toNat < 0x20 || c.toNat == 0x7F || c.toNat ≥ 0x80 || " \"#<>`?\x7b\x7d/\\".contains c

/-! ## Percent-decoding -/

/-- The value of an ASCII hexadecimal digit, in either case. -/
def hexValue? (b : UInt8) : Option Nat :=
  if 0x30 ≤ b.toNat ∧ b.toNat ≤ 0x39 then some (b.toNat - 0x30)
  else if 0x41 ≤ b.toNat ∧ b.toNat ≤ 0x46 then some (b.toNat - 0x41 + 10)
  else if 0x61 ≤ b.toNat ∧ b.toNat ≤ 0x66 then some (b.toNat - 0x61 + 10)
  else none

/-- Percent-decoding of bytes: `%` followed by two hexadecimal digits stands for the
byte they spell, and every other byte for itself. -/
def percentDecode : List UInt8 → List UInt8
  | [] => []
  | b :: h :: l :: more =>
    if b = 0x25 then
      match hexValue? h, hexValue? l with
      | some x, some y => (x * 16 + y).toUInt8 :: percentDecode more
      | _, _ => b :: percentDecode (h :: l :: more)
    else b :: percentDecode (h :: l :: more)
  | b :: rest => b :: percentDecode rest

/-- A byte other than `%` stands for itself. -/
theorem percentDecode_cons_of_ne {b : UInt8} (hb : b ≠ 0x25) :
    ∀ rest, percentDecode (b :: rest) = b :: percentDecode rest
  | h :: l :: more => by rw [percentDecode.eq_2, if_neg hb]
  | [] => rfl
  | [h] => rfl

/-- The bytes of a text are the UTF-8 encodings of its characters. -/
theorem toUTF8_data_toList (s : String) :
    s.toUTF8.data.toList = s.toList.flatMap String.utf8EncodeChar := by
  rw [String.toUTF8_eq_toByteArray, ← String.utf8Encode_toList, List.utf8Encode,
    List.toList_data_toByteArray]

/-- An ASCII character is the one byte of its code. -/
theorem utf8EncodeChar_of_lt {c : Char} (h : c.toNat < 0x80) :
    String.utf8EncodeChar c = [c.val.toUInt8] := by
  apply String.utf8EncodeChar_eq_singleton
  rw [Char.utf8Size_eq_one_iff, UInt32.le_iff_toNat_le]
  exact Nat.le_of_lt_succ h

/-! ## What encoding writes -/

namespace Percent

theorem escaped_escapeChar (keep : Char → Bool) (c : Char) : Escaped keep (escapeChar c) := by
  refine Escaped.flatMap fun b _ => ?_
  have hb : b.toNat < 256 := UInt8.toNat_lt_size b
  exact .escape (isUpperHex_hexDigit (by omega)) (isUpperHex_hexDigit (by omega)) .nil

/-- The path-segment set keeps only ASCII characters that are neither forbidden in a
path nor `%`. -/
theorem escaped_encodePathSegment (s : String) :
    Escaped (fun c => !pathForbidden c) (encodePathSegment s).toList := by
  rw [encodePathSegment, toList_encode]
  refine Escaped.flatMap fun c _ => ?_
  unfold encodeChar
  split
  · next hkeep =>
    simp only [pathSegment, controls, Bool.and_eq_true, decide_eq_true_eq, Bool.not_or,
      Bool.not_eq_true'] at hkeep
    obtain ⟨hascii, ⟨hlow, hdel⟩, hset⟩ := hkeep
    refine .kept ?_ ?_ .nil
    · -- controls and non-ASCII characters are escaped, and so is every character of the set
      simp only [pathForbidden, Bool.not_eq_true', Bool.or_eq_false_iff]
      refine ⟨⟨⟨hlow, hdel⟩, by simpa using hascii⟩, ?_⟩
      simp at hset ⊢
      tauto
    · rintro rfl
      simp at hset
  · exact escaped_escapeChar _ c

/-! ## Reading the bytes back -/

theorem hexValue?_hexDigit : ∀ n < 16, hexValue? (hexDigit n).val.toUInt8 = some n := by
  decide

theorem utf8EncodeChar_hexDigit : ∀ n < 16,
    String.utf8EncodeChar (hexDigit n) = [(hexDigit n).val.toUInt8] := by
  decide

/-- The bytes of an escape: `%` and the two digits of the escaped byte. -/
theorem bytes_escapeByte (b : UInt8) :
    (escapeByte b).flatMap String.utf8EncodeChar =
      [0x25, (hexDigit (b.toNat / 16)).val.toUInt8, (hexDigit (b.toNat % 16)).val.toUInt8] := by
  have hb : b.toNat < 256 := UInt8.toNat_lt_size b
  rw [escapeByte, List.flatMap_cons, List.flatMap_cons, List.flatMap_cons, List.flatMap_nil,
    utf8EncodeChar_hexDigit _ (by omega), utf8EncodeChar_hexDigit _ (by omega),
    utf8EncodeChar_of_lt (by decide)]
  rfl

/-- An escape stands for the byte it escapes. -/
theorem percentDecode_escapeByte (b : UInt8) (rest : List UInt8) :
    percentDecode ((escapeByte b).flatMap String.utf8EncodeChar ++ rest) =
      b :: percentDecode rest := by
  have hb : b.toNat < 256 := UInt8.toNat_lt_size b
  have hhi : b.toNat / 16 < 16 := by omega
  have hlo : b.toNat % 16 < 16 := by omega
  rw [bytes_escapeByte, List.cons_append, List.cons_append, List.cons_append, List.nil_append,
    percentDecode.eq_2, if_pos rfl, hexValue?_hexDigit _ hhi, hexValue?_hexDigit _ hlo]
  -- the two digits spell the byte back
  dsimp only
  rw [Nat.div_add_mod']
  congr 1
  exact UInt8.ofNat_toNat

/-- The escapes of a run of bytes stand for those bytes. -/
theorem percentDecode_escapes (rest : List UInt8) :
    ∀ bs : List UInt8, percentDecode
      ((bs.flatMap fun b => (escapeByte b).flatMap String.utf8EncodeChar) ++ rest) =
        bs ++ percentDecode rest
  | [] => rfl
  | b :: more => by
    rw [List.flatMap_cons, List.append_assoc, percentDecode_escapeByte,
      percentDecode_escapes rest more, List.cons_append]

/-- An encoded character stands for its UTF-8 bytes, when the set escapes `%`. -/
theorem percentDecode_encodeChar {set : EncodeSet} (hpct : set.escapes '%' = true) (c : Char)
    (rest : List UInt8) :
    percentDecode ((encodeChar set c).flatMap String.utf8EncodeChar ++ rest) =
      String.utf8EncodeChar c ++ percentDecode rest := by
  unfold encodeChar
  split
  · next hkeep =>
    -- a kept character is ASCII and not `%`, so its one byte stands for itself
    simp only [Bool.and_eq_true, decide_eq_true_eq, Bool.not_eq_true'] at hkeep
    obtain ⟨hascii, hset⟩ := hkeep
    have hne : c.val.toUInt8 ≠ 0x25 := by
      intro heq
      have hbyte : c.val.toNat % 256 = 37 := by
        have := congrArg UInt8.toNat heq
        rw [UInt32.toNat_toUInt8] at this
        exact this
      have hcode : c.toNat = '%'.toNat := by
        have hlt : c.val.toNat < 128 := hascii
        change c.val.toNat = 37
        omega
      rw [Char.toNat_inj.1 hcode, hpct] at hset
      cases hset
    rw [List.flatMap_cons, List.flatMap_nil, List.append_nil, utf8EncodeChar_of_lt hascii,
      List.singleton_append, percentDecode_cons_of_ne hne, List.singleton_append]
  · rw [escapeChar, List.flatMap_assoc, percentDecode_escapes]

/-- An encoded text stands for the UTF-8 bytes of the text, when the set escapes `%`. -/
theorem percentDecode_encode {set : EncodeSet} (hpct : set.escapes '%' = true) (s : String) :
    percentDecode (encode set s).toUTF8.data.toList = s.toUTF8.data.toList := by
  rw [toUTF8_data_toList, toUTF8_data_toList, toList_encode, List.flatMap_assoc]
  induction s.toList with
  | nil => rfl
  | cons c cs ih =>
    rw [List.flatMap_cons, List.flatMap_cons, percentDecode_encodeChar hpct, ih]

/-- Encoding with a set that escapes `%` is injective: decoding recovers the bytes,
and the bytes the text. -/
theorem encode_injective {set : EncodeSet} (hpct : set.escapes '%' = true) :
    Function.Injective (encode set) := by
  intro s s' h
  have hbytes : s.toUTF8.data.toList = s'.toUTF8.data.toList := by
    rw [← percentDecode_encode hpct s, ← percentDecode_encode hpct s', h]
  rw [← String.toByteArray_inj, ← String.toUTF8_eq_toByteArray, ← String.toUTF8_eq_toByteArray]
  exact ByteArray.ext (Array.toList_inj.1 hbytes)

end Percent

/-! ## The law -/

/-- Percent-encoding is a code. An encoded query component holds only unreserved
characters and upper-case `%XX` escapes; an encoded path segment holds no character a
path forbids and a `%` only at the start of an upper-case escape. Percent-decoding
the output of either encoding gives back exactly the UTF-8 bytes of the value, so both
encodings are injective. -/
theorem percentEncoding_code :
    (∀ s : String,
      Escaped isUnreserved (Percent.encodeQueryComponent s).toList ∧
      percentDecode (Percent.encodeQueryComponent s).toUTF8.data.toList = s.toUTF8.data.toList ∧
      Escaped (fun c => !pathForbidden c) (Percent.encodePathSegment s).toList ∧
      percentDecode (Percent.encodePathSegment s).toUTF8.data.toList = s.toUTF8.data.toList) ∧
    Function.Injective Percent.encodeQueryComponent ∧
    Function.Injective Percent.encodePathSegment := by
  -- both sets escape `%`
  have hquery : Percent.queryComponent.escapes '%' = true := by
    simp [Percent.queryComponent, Percent.isAsciiAlphanumeric]
  have hpath : Percent.pathSegment.escapes '%' = true := by
    simp [Percent.pathSegment]
  refine ⟨fun s => ⟨(Percent.querySafe_encodeQueryComponent s).escaped,
    Percent.percentDecode_encode hquery s, Percent.escaped_encodePathSegment s,
    Percent.percentDecode_encode hpath s⟩, Percent.encode_injective hquery,
    Percent.encode_injective hpath⟩

end HttpBlueprint
