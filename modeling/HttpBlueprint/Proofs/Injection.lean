import HttpBlueprint.Proofs.Resolve
import HttpBlueprint.Proofs.Factory
/-!
# Arguments cannot change the shape of a request

What an argument contributes to a request line is percent-encoded for the place it
goes, unless its name is marked as already encoded:

* a path placeholder is written with the path-segment set, which escapes `/`, `?`
  and `#`, so the delimiters of the path are those of the blueprint's literal text;
* a query placeholder is written with the query-component set, which keeps only
  ASCII letters, digits and `-._~`, so what it writes is `QuerySafe`;
* a query map argument writes its names and its values the same way.

Names are marked as already encoded by the blueprint, by the positions marked
encoded, and, under the form strategy, by the form parameters. An encoder is trusted
to write only the body and the headers (`Encoder.KeepsRequestLine`); the built-in
encoders do.
-/

namespace HttpBlueprint

open Segment

/-! ## Query-safe text -/

/-- An upper-case hexadecimal digit. -/
def isUpperHex (c : Char) : Bool :=
  c.isDigit || ('A' ≤ c && c ≤ 'F')

/-- A character a query component carries as it is: an ASCII letter or digit, or one
of `-._~`. -/
def isUnreserved (c : Char) : Bool :=
  c.isAlphanum || "-._~".contains c

/-- Text made only of unreserved characters and `%XX` escapes with upper-case
hexadecimal digits: it can neither end a query value nor start a new one, a new
parameter or a fragment. -/
inductive QuerySafe : List Char → Prop
  | nil : QuerySafe []
  | unreserved {c : Char} {rest : List Char} :
      isUnreserved c = true → QuerySafe rest → QuerySafe (c :: rest)
  | escape {h₁ h₂ : Char} {rest : List Char} :
      isUpperHex h₁ = true → isUpperHex h₂ = true → QuerySafe rest →
        QuerySafe ('%' :: h₁ :: h₂ :: rest)

/-- The characters that end a path segment, the path, or the query: `/`, `?` and `#`. -/
def isPathDelimiter (c : Char) : Bool :=
  c == '/' || c == '?' || c == '#'

/-- A delimiter is neither unreserved nor a hexadecimal digit. -/
theorem isPathDelimiter_cases {c : Char} (h : isPathDelimiter c = true) :
    isUnreserved c = false ∧ isUpperHex c = false := by
  simp only [isPathDelimiter, Bool.or_eq_true, beq_iff_eq] at h
  rcases h with (rfl | rfl) | rfl <;> simp [isUnreserved, isUpperHex]

namespace QuerySafe

theorem append {xs ys : List Char} (hx : QuerySafe xs) (hy : QuerySafe ys) :
    QuerySafe (xs ++ ys) := by
  induction hx with
  | nil => exact hy
  | unreserved hc _ ih => exact .unreserved hc ih
  | escape h₁ h₂ _ ih => exact .escape h₁ h₂ ih

theorem flatMap {α : Type} {f : α → List Char} :
    ∀ {l : List α}, (∀ a ∈ l, QuerySafe (f a)) → QuerySafe (l.flatMap f)
  | [], _ => .nil
  | a :: rest, h => by
    rw [List.flatMap_cons]
    exact (h a List.mem_cons_self).append (flatMap fun b hb => h b (List.mem_cons_of_mem a hb))

/-- Query-safe text holds no path delimiter. -/
theorem not_isPathDelimiter {cs : List Char} (h : QuerySafe cs) :
    ∀ d ∈ cs, isPathDelimiter d = false := by
  -- unreserved characters and hexadecimal digits are no delimiters, and `%` is none
  have hunreserved : ∀ c, isUnreserved c = true → isPathDelimiter c = false := fun c hc =>
    Bool.eq_false_iff.2 fun hdel => by simp [(isPathDelimiter_cases hdel).1] at hc
  have hhex : ∀ c, isUpperHex c = true → isPathDelimiter c = false := fun c hc =>
    Bool.eq_false_iff.2 fun hdel => by simp [(isPathDelimiter_cases hdel).2] at hc
  induction h with
  | nil => simp
  | unreserved hc _ ih =>
    intro d hd
    rcases List.mem_cons.1 hd with rfl | hd
    · exact hunreserved _ hc
    · exact ih d hd
  | escape h₁ h₂ _ ih =>
    intro d hd
    simp only [List.mem_cons] at hd
    rcases hd with rfl | rfl | rfl | hd
    · rfl
    · exact hhex _ h₁
    · exact hhex _ h₂
    · exact ih d hd

end QuerySafe

/-! ## What percent-encoding writes -/

namespace Percent

theorem isUpperHex_hexDigit {n : Nat} (h : n < 16) : isUpperHex (hexDigit n) = true := by
  have hall : ∀ n < 16, isUpperHex (hexDigit n) = true := by decide
  exact hall n h

theorem querySafe_escapeByte (b : UInt8) : QuerySafe (escapeByte b) := by
  have hb : b.toNat < 256 := UInt8.toNat_lt_size b
  exact .escape (isUpperHex_hexDigit (by omega)) (isUpperHex_hexDigit (by omega)) .nil

theorem querySafe_escapeChar (c : Char) : QuerySafe (escapeChar c) :=
  QuerySafe.flatMap fun b _ => querySafe_escapeByte b

/-- The query-component set keeps exactly the unreserved characters and escapes the
rest, so every character it writes is query-safe. -/
theorem querySafe_encodeChar (c : Char) : QuerySafe (encodeChar queryComponent c) := by
  unfold encodeChar
  split
  · next hkeep =>
    have hc : isUnreserved c = true := by
      simp only [queryComponent, Bool.and_eq_true, Bool.not_not] at hkeep
      simpa [isUnreserved, isAsciiAlphanumeric] using hkeep.2
    exact .unreserved hc .nil
  · exact querySafe_escapeChar c

theorem querySafe_encodeQueryComponent (s : String) :
    QuerySafe (encodeQueryComponent s).toList := by
  rw [encodeQueryComponent, toList_encode]
  exact QuerySafe.flatMap fun c _ => querySafe_encodeChar c

/-- A value encoded as a path segment holds no path delimiter: the set escapes all
three, and an escape is a `%` and two hexadecimal digits. -/
theorem not_isPathDelimiter_encodePathSegment (s : String) :
    ∀ d ∈ (encodePathSegment s).toList, isPathDelimiter d = false := by
  intro d hd
  rw [encodePathSegment, toList_encode, List.mem_flatMap] at hd
  obtain ⟨c, -, hd⟩ := hd
  unfold encodeChar at hd
  split at hd
  · next hkeep =>
    rw [List.mem_singleton] at hd
    subst hd
    refine Bool.eq_false_iff.2 fun hdel => ?_
    simp only [isPathDelimiter, Bool.or_eq_true, beq_iff_eq] at hdel
    rcases hdel with (rfl | rfl) | rfl <;> simp [pathSegment] at hkeep
  · exact (querySafe_escapeChar c).not_isPathDelimiter d hd

end Percent

/-! ## Delimiters of a filled text -/

/-- The text of the literal segments, in order. -/
def Segment.literalText : List Segment → List Char
  | [] => []
  | .literal text :: rest => text ++ literalText rest
  | .hole _ :: rest => literalText rest

/-- When no hole is filled with a character of a class, the characters of that class
in the filled text are those of the literal segments, in order. -/
theorem filter_fillHoles {p : Char → Bool} {hole : String → String} :
    ∀ {segs : List Segment}, (∀ n ∈ holeNames segs, ∀ c ∈ (hole n).toList, p c = false) →
      (fillHoles id hole segs).toList.filter p = (literalText segs).filter p
  | [], _ => rfl
  | .literal text :: rest, h => by
    have ih := @filter_fillHoles p hole rest (by simpa using h)
    simp only [fillHoles, literalText, id, String.toList_append, String.toList_ofList,
      List.filter_append, ih]
  | .hole body :: rest, h => by
    have hhole : (hole (holeName (String.ofList body))).toList.filter p = [] :=
      List.filter_eq_nil_iff.2 fun c hc => by simp [h _ (by simp) c hc]
    have ih := @filter_fillHoles p hole rest fun n hn => h n (by simp [hn])
    simp only [fillHoles, literalText, String.toList_append, List.filter_append, hhole,
      List.nil_append, ih]

/-- Filling depends only on what the holes that occur are filled with. -/
theorem fillHoles_congr {literal hole hole' : String → String} :
    ∀ {segs : List Segment}, (∀ n ∈ holeNames segs, hole n = hole' n) →
      fillHoles literal hole segs = fillHoles literal hole' segs
  | [], _ => rfl
  | .literal text :: rest, h => by
    simp only [fillHoles]
    rw [@fillHoles_congr literal hole hole' rest (by simpa using h)]
  | .hole body :: rest, h => by
    simp only [fillHoles]
    rw [h _ (by simp), @fillHoles_congr literal hole hole' rest fun n hn => h n (by simp [hn])]

/-! ## Encoders that write only the body -/

/-- An encoder that writes only the body and the headers: the path, the queries and
the names marked as already encoded stay as they were. -/
def Encoder.KeepsRequestLine (E : Encoder) : Prop :=
  ∀ p bt t t', E.encode p bt t = .ok t' →
    t'.path = t.path ∧ t'.queries = t.queries ∧ t'.alreadyEncoded = t.alreadyEncoded

namespace Encoder

theorem json_keepsRequestLine : json.KeepsRequestLine := by
  intro p bt t t' h
  cases h
  exact ⟨rfl, rfl, rfl⟩

/-- A form encoder writes only the body and headers when its delegate does. -/
theorem form_keepsRequestLine {d : Encoder} (hd : d.KeepsRequestLine) :
    (form d).KeepsRequestLine := by
  intro p bt t t' h
  simp only [form] at h
  split at h
  · split at h
    · cases h
      exact ⟨rfl, rfl, rfl⟩
    · cases h
  · exact hd p bt t t' h

end Encoder

theorem Resolver.withDefaults_keepsRequestLine : withDefaults.encoder.KeepsRequestLine :=
  Encoder.form_keepsRequestLine Encoder.json_keepsRequestLine

/-! ## Merging map arguments -/

namespace Template

/-- Merging a query map keeps the path and the already encoded names; each query
entry afterwards was there before, or is a name and values the merge wrote, all
percent-encoded as query components. -/
theorem mergeQueryMap_eq_ok {t t' : Template} {v : Value} {q : QueryMapEncoder}
    (h : t.mergeQueryMap v q = .ok t') :
    t'.path = t.path ∧ t'.alreadyEncoded = t.alreadyEncoded ∧
      ∀ k vs, (k, vs) ∈ t'.queries.entries →
        (k, vs) ∈ t.queries.entries ∨ (QuerySafe k.toList ∧ ∀ x ∈ vs, QuerySafe x.toList) := by
  unfold mergeQueryMap at h
  simp only [bind_eq_ok, pure_eq_ok] at h
  obtain ⟨entries, -, rfl⟩ := h
  refine foldl_invariant (fun s : Template => s.path = t.path ∧
      s.alreadyEncoded = t.alreadyEncoded ∧ ∀ k vs, (k, vs) ∈ s.queries.entries →
        (k, vs) ∈ t.queries.entries ∨ (QuerySafe k.toList ∧ ∀ x ∈ vs, QuerySafe x.toList))
    ?_ entries ⟨rfl, rfl, fun k vs hk => .inl hk⟩
  -- one entry of the map rebinds its encoded name to its encoded texts, or does nothing
  rintro s ⟨name, value⟩ ⟨hpath, henc, hq⟩
  dsimp only
  split
  · exact ⟨hpath, henc, hq⟩
  · refine ⟨hpath, henc, fun k vs hk => ?_⟩
    rcases Multimap.mem_replaceEntries hk with hk | ⟨rfl, rfl⟩
    · exact hq k vs hk
    · refine .inr ⟨Percent.querySafe_encodeQueryComponent name, fun x hx => ?_⟩
      obtain ⟨raw, -, rfl⟩ := List.mem_map.1 hx
      exact Percent.querySafe_encodeQueryComponent raw

/-- Merging a header map changes only the headers. -/
theorem mergeHeaderMap_eq_ok {t t' : Template} {v : Value} {q : QueryMapEncoder}
    (h : t.mergeHeaderMap v q = .ok t') :
    t'.path = t.path ∧ t'.queries = t.queries ∧ t'.alreadyEncoded = t.alreadyEncoded := by
  unfold mergeHeaderMap at h
  simp only [bind_eq_ok, pure_eq_ok] at h
  obtain ⟨entries, -, rfl⟩ := h
  refine foldl_invariant (fun s : Template => s.path = t.path ∧ s.queries = t.queries ∧
    s.alreadyEncoded = t.alreadyEncoded) ?_ entries ⟨rfl, rfl, rfl⟩
  rintro s ⟨name, value⟩ hs
  exact hs

end Template

/-! ## Query values of a resolution -/

/-- Resolving one query key of an exact-keyed map keeps it exact-keyed, and each value
afterwards was bound before under the same key or is an expansion of a value text of
the key resolved. -/
theorem resolveQuery_mem {vars : Variables} {encoded : List String} {acc m : Multimap String}
    {name : String} {values : List String} (hci : acc.caseInsensitive = false)
    (h : Template.resolveQuery vars encoded acc (name, values) = .ok m) :
    m.caseInsensitive = false ∧ ∀ k vs, (k, vs) ∈ m.entries → ∀ x ∈ vs,
      (∃ vs₀, (k, vs₀) ∈ acc.entries ∧ x ∈ vs₀) ∨
        (k = name ∧ x ∈ values.flatMap (expandedValues vars (queryEncoding encoded))) := by
  -- an exact key matches only itself, so what is appended goes to `name`
  have happend : ∀ vals, (acc.append name vals).caseInsensitive = false ∧
      ∀ k vs, (k, vs) ∈ (acc.append name vals).entries → ∀ x ∈ vs,
        (∃ vs₀, (k, vs₀) ∈ acc.entries ∧ x ∈ vs₀) ∨ (k = name ∧ x ∈ vals) := by
    intro vals
    refine ⟨hci, fun k vs hk x hx => ?_⟩
    rcases Multimap.mem_appendEntries hk hx with hold | ⟨hmatch, hnew⟩
    · exact .inl hold
    · rw [hci] at hmatch
      exact .inr ⟨by simpa [keyMatches, keyClass] using hmatch, hnew⟩
  rw [resolveQuery_spec h]
  split_ifs
  · obtain ⟨hci', hmem⟩ := happend []
    refine ⟨hci', fun k vs hk x hx => ?_⟩
    rcases hmem k vs hk x hx with hold | ⟨-, hnone⟩
    · exact .inl hold
    · cases hnone
  · exact ⟨hci, fun k vs hk x hx => .inl ⟨vs, hk, hx⟩⟩
  · exact happend _

/-- What a resolution writes on the request line: the expanded path and the rebuilt
queries, with the template's already encoded names. -/
theorem resolve_requestLine {t r : Template} {vars : Variables} (h : t.resolve vars = .ok r) :
    ∃ path queries, expandPath t.path vars t.alreadyEncoded = .ok path ∧
      t.queries.entries.foldlM (Template.resolveQuery vars t.alreadyEncoded) Multimap.empty =
        .ok queries ∧
      r.path = path ∧ r.queries = queries ∧ r.alreadyEncoded = t.alreadyEncoded := by
  obtain ⟨path, queries, -, -, hpath, hqueries, -, rfl⟩ := Template.resolve_eq_ok h
  exact ⟨path, queries, hpath, hqueries, rfl, rfl, rfl⟩

/-- Each query value of a resolution is an expansion of a value text of the same key
of the template. -/
theorem resolve_query_value {t r : Template} {vars : Variables} (h : t.resolve vars = .ok r) :
    ∀ k vs, (k, vs) ∈ r.queries.entries → ∀ x ∈ vs,
      ∃ vts, (k, vts) ∈ t.queries.entries ∧
        ∃ tpl ∈ vts, x ∈ expandedValues vars (queryEncoding t.alreadyEncoded) tpl := by
  obtain ⟨-, queries, -, hq, -, rfl, -⟩ := resolve_requestLine h
  -- the rebuilt map is exact-keyed and each of its values expands a text of its key
  have hinv := foldlM_invariant (fun acc : Multimap String => acc.caseInsensitive = false ∧
      ∀ k vs, (k, vs) ∈ acc.entries → ∀ x ∈ vs, ∃ vts, (k, vts) ∈ t.queries.entries ∧
        ∃ tpl ∈ vts, x ∈ expandedValues vars (queryEncoding t.alreadyEncoded) tpl)
    (fun acc e acc' he hacc hstep => by
      obtain ⟨name, values⟩ := e
      obtain ⟨hci, hmem⟩ := resolveQuery_mem hacc.1 hstep
      refine ⟨hci, fun k vs hk x hx => ?_⟩
      rcases hmem k vs hk x hx with ⟨vs₀, hk₀, hx₀⟩ | ⟨rfl, hnew⟩
      · exact hacc.2 k vs₀ hk₀ x hx₀
      · obtain ⟨tpl, htpl, hx⟩ := List.mem_flatMap.1 hnew
        exact ⟨values, he, tpl, htpl, hx⟩)
    ⟨rfl, fun k vs hk => by simp [Multimap.empty] at hk⟩ hq
  exact hinv.2

/-- An expanded value is its text with each placeholder filled by the writing of some
rendering. -/
theorem mem_expandedValues {vars : Variables} {enc : String → String → String} {s x : String}
    (h : x ∈ expandedValues vars enc s) :
    ∃ fill : String → String, x = fillHoles id fill (scan s) ∧
      ∀ n ∈ holeNames (scan s), ∃ raw, fill n = enc n raw := by
  have hfilled : x ∈ (filledText? vars enc (scan s)).toList → ∃ fill : String → String,
      x = fillHoles id fill (scan s) ∧ ∀ n ∈ holeNames (scan s), ∃ raw, fill n = enc n raw := by
    intro hx
    unfold filledText? at hx
    split at hx
    · simp at hx
    · rw [Option.toList_some, List.mem_singleton] at hx
      exact ⟨fun n => enc n (renderedText vars n), hx, fun n _ => ⟨_, rfl⟩⟩
  unfold expandedValues at h
  split at h
  · next n hsingle =>
    split at h
    · -- a list placeholder gives one value per item, the whole text being the placeholder
      obtain ⟨raw, -, rfl⟩ := List.mem_map.1 h
      obtain ⟨body, hscan, hname⟩ := scan_of_singleHole? hsingle
      refine ⟨fun _ => enc n raw, by simp [hscan, fillHoles], fun m hm => ⟨raw, ?_⟩⟩
      simp only [hscan, holeNames_literal, holeNames_hole, holeNames_nil, hname,
        List.mem_singleton] at hm
      rw [hm]
    · exact hfilled h
  · exact hfilled h

/-- With the query encoding, every placeholder of a query value that is not already
encoded is filled with query-safe text. -/
theorem querySafe_of_mem_expandedValues {vars : Variables} {encoded : List String} {s x : String}
    (h : x ∈ expandedValues vars (queryEncoding encoded) s) :
    ∃ fill : String → String, x = fillHoles id fill (scan s) ∧
      ∀ n ∈ holeNames (scan s), n ∉ encoded → QuerySafe (fill n).toList := by
  obtain ⟨fill, rfl, hfill⟩ := mem_expandedValues h
  refine ⟨fill, rfl, fun n hn hnot => ?_⟩
  obtain ⟨raw, hraw⟩ := hfill n hn
  rw [hraw, queryEncoding, if_neg hnot]
  exact Percent.querySafe_encodeQueryComponent raw

/-! ## The request line of a call -/

namespace Factory

/-- The seed template has the blueprint's path, queries and already encoded names. -/
theorem seed_requestLine {f : Factory} {argv : List Value} {t : Template}
    (h : f.seed argv = .ok t) :
    t.path = f.metadata.template.path ∧ t.queries = f.metadata.template.queries ∧
      t.alreadyEncoded = f.metadata.template.alreadyEncoded := by
  unfold seed at h
  cases hurl : f.metadata.urlIndex with
  | none =>
    simp only [hurl, pure_eq_ok] at h
    subst h
    simp
  | some i =>
    simp only [hurl] at h
    obtain ⟨v, -, -, rfl⟩ := overrideTarget_eq_ok.1 h
    simp

/-- The template a strategy hands over with its payload is the one it was given,
except that the form strategy marks the form parameters as already encoded. -/
theorem payload_template {f : Factory} {t t' : Template} {args : List Value} {vars : Variables}
    {p : Value} {bt : BodyType} (h : f.payload t args vars = .ok (some (t', p, bt))) :
    t' = if f.strategy = .formEncoded then t.markEncoded f.metadata.formParams else t := by
  cases hs : f.strategy with
  | plain =>
    rw [payload_plain hs] at h
    cases h
  | formEncoded =>
    rw [payload_formEncoded hs] at h
    cases h
    rfl
  | bodyEncoded =>
    unfold payload at h
    simp only [hs] at h
    split at h
    · cases h
      rfl
    · simp only [bind_eq_ok] at h
      obtain ⟨v, -, hv⟩ := h
      split at hv
      · cases hv
      · cases hv
        rfl

/-- Finishing resolves the template with the names at encoded positions marked; the
map merges after it keep the path and the already encoded names, and add only query
entries with query-safe names and values. -/
theorem finish_requestLine {f : Factory} {args : List Value} {vars : Variables}
    {t r : Template} (h : f.finish args vars t = .ok r) :
    ∃ r₀, (t.markEncoded f.metadata.encodedNames).resolve vars = .ok r₀ ∧ r.path = r₀.path ∧
      r.alreadyEncoded = r₀.alreadyEncoded ∧ ∀ k vs, (k, vs) ∈ r.queries.entries →
        (k, vs) ∈ r₀.queries.entries ∨ (QuerySafe k.toList ∧ ∀ x ∈ vs, QuerySafe x.toList) := by
  unfold finish at h
  simp only [bind_eq_ok] at h
  obtain ⟨r₀, hres, hrest⟩ := h
  refine ⟨r₀, hres, ?_⟩
  -- the query map merge comes first and the header map merge last; `r₁` stands between
  have hcombine : ∀ r₁ : Template, r₁.path = r₀.path → r₁.alreadyEncoded = r₀.alreadyEncoded →
      (∀ k vs, (k, vs) ∈ r₁.queries.entries → (k, vs) ∈ r₀.queries.entries ∨
        (QuerySafe k.toList ∧ ∀ x ∈ vs, QuerySafe x.toList)) →
      r.path = r₁.path ∧ r.queries = r₁.queries ∧ r.alreadyEncoded = r₁.alreadyEncoded →
      r.path = r₀.path ∧ r.alreadyEncoded = r₀.alreadyEncoded ∧
        ∀ k vs, (k, vs) ∈ r.queries.entries → (k, vs) ∈ r₀.queries.entries ∨
          (QuerySafe k.toList ∧ ∀ x ∈ vs, QuerySafe x.toList) := by
    rintro r₁ hp₁ he₁ hq₁ ⟨hp, hqs, he⟩
    exact ⟨hp.trans hp₁, he.trans he₁, fun k vs hk => hq₁ k vs (hqs ▸ hk)⟩
  have hnone : ∀ k vs, (k, vs) ∈ r₀.queries.entries → (k, vs) ∈ r₀.queries.entries ∨
      (QuerySafe k.toList ∧ ∀ x ∈ vs, QuerySafe x.toList) := fun k vs hk => .inl hk
  cases hqi : f.metadata.queryMapIndex <;> cases hhi : f.metadata.headerMapIndex <;>
    simp only [hqi, hhi, bind_eq_ok, pure_eq_ok] at hrest
  · -- no map argument
    obtain ⟨r₁, rfl, rfl⟩ := hrest
    exact hcombine r₀ rfl rfl hnone ⟨rfl, rfl, rfl⟩
  · -- a header map only
    obtain ⟨r₁, rfl, b, -, hm⟩ := hrest
    exact hcombine r₀ rfl rfl hnone (Template.mergeHeaderMap_eq_ok hm)
  · -- a query map only
    obtain ⟨a, -, r₁, hm, rfl⟩ := hrest
    obtain ⟨hp₁, he₁, hq₁⟩ := Template.mergeQueryMap_eq_ok hm
    exact hcombine r₁ hp₁ he₁ hq₁ ⟨rfl, rfl, rfl⟩
  · -- a query map and a header map
    obtain ⟨a, -, r₁, hm, b, -, hm'⟩ := hrest
    obtain ⟨hp₁, he₁, hq₁⟩ := Template.mergeQueryMap_eq_ok hm
    exact hcombine r₁ hp₁ he₁ hq₁ (Template.mergeHeaderMap_eq_ok hm')

/-- A call that succeeds bound its variables and finished from a template with the
blueprint's path and queries, whose already encoded names are the blueprint's and,
under the form strategy, the form parameters; provided its encoder writes only the
body and headers. -/
theorem create_requestLine {f : Factory} {argv : List Value} {r : Template}
    (hE : f.encoder.KeepsRequestLine) (h : (f.create argv).result = .ok r) :
    ∃ t vars, bindVariables (expandArguments argv f.metadata.indexToExpand)
        f.metadata.indexToName f.expanders = .ok vars ∧
      f.finish (expandArguments argv f.metadata.indexToExpand) vars t = .ok r ∧
      t.path = f.metadata.template.path ∧ t.queries = f.metadata.template.queries ∧
      ∀ n, n ∈ t.alreadyEncoded ↔ n ∈ f.metadata.template.alreadyEncoded ∨
        (f.strategy = .formEncoded ∧ n ∈ f.metadata.formParams) := by
  cases hprep : f.prepare argv with
  | error e =>
    rw [create_of_prepare_error hprep] at h
    cases h
  | ok res =>
    obtain ⟨t₀, args, vars⟩ := res
    obtain ⟨hseed, rfl, hbind⟩ := prepare_eq_ok.1 hprep
    obtain ⟨hpath, hqueries, henc⟩ := seed_requestLine hseed
    cases hpay : f.payload t₀ (expandArguments argv f.metadata.indexToExpand) vars with
    | error e =>
      rw [create_of_payload_error hprep hpay] at h
      cases h
    | ok handed =>
      cases handed with
      | none =>
        -- nothing handed over: the form strategy always hands over its map
        rw [create_of_payload_none hprep hpay] at h
        have hform : f.strategy ≠ .formEncoded := fun hs => by
          rw [payload_formEncoded hs] at hpay
          cases hpay
        refine ⟨t₀, vars, hbind, h, hpath, hqueries, fun n => ?_⟩
        simp [henc, hform]
      | some handed =>
        obtain ⟨t₁, p, bt⟩ := handed
        rw [create_of_payload_some hprep hpay] at h
        simp only [bind_eq_ok, mapError_eq_ok] at h
        obtain ⟨t₂, hencode, hfin⟩ := h
        -- the encoder leaves the request line of the template it was handed
        obtain ⟨hp₂, hq₂, he₂⟩ := hE p bt t₁ t₂ hencode
        have ht₁ := payload_template hpay
        refine ⟨t₂, vars, hbind, hfin, ?_, ?_, fun n => ?_⟩
        · rw [hp₂, ht₁]
          split <;> simp [hpath]
        · rw [hq₂, ht₁]
          split <;> simp [hqueries]
        · rw [he₂, ht₁]
          split
          · next hs => simp [henc, hs, or_comm]
          · next hs => simp [henc, hs]

end Factory

/-! ## No injection through arguments -/

/-- Arguments cannot change the shape of a call's request line. Take a call that
succeeds, with an encoder that writes only the body and headers. Its already encoded
names are the blueprint's, the names bound at encoded positions and, under the form
strategy, the form parameters. When no path placeholder is among them, the path is the
blueprint's literal text with each placeholder replaced by the rendering of its
variable encoded as a path segment, so its `/`, `?` and `#` are those of the literal
text. Each query value is the literal text of a value of the same blueprint key with
every placeholder that is not already encoded filled with query-safe text, or was
written by the query map merge with a query-safe name and value; either way what an
argument writes into the query holds no `/`, `?` or `#`. -/
theorem create_arguments_cannot_inject (r : Resolver) (hE : r.encoder.KeepsRequestLine)
    (target : Target) (m : CallMetadata) (argv : List Value) (t : Template)
    (h : ((r.resolve target m).create argv).result = .ok t) :
    (∀ n, n ∈ t.alreadyEncoded ↔ n ∈ m.template.alreadyEncoded ∨ n ∈ m.encodedNames ∨
      (Strategy.select m = .formEncoded ∧ n ∈ m.formParams)) ∧
    ((∀ n ∈ holeNames (scan m.template.path), n ∉ m.template.alreadyEncoded ∧
        n ∉ m.encodedNames ∧ (Strategy.select m = .formEncoded → n ∉ m.formParams)) →
      ∃ vars, bindVariables (expandArguments argv m.indexToExpand) m.indexToName
          (r.resolve target m).expanders = .ok vars ∧
        (∀ n ∈ holeNames (scan m.template.path),
          ∃ v raw, vars.get? n = some v ∧ v.render = some raw) ∧
        t.path = fillHoles id (fun n => Percent.encodePathSegment (renderedText vars n))
          (scan m.template.path) ∧
        t.path.toList.filter isPathDelimiter =
          (literalText (scan m.template.path)).filter isPathDelimiter) ∧
    ∀ k vs, (k, vs) ∈ t.queries.entries → ∀ x ∈ vs,
      (∃ vts, (k, vts) ∈ m.template.queries.entries ∧ ∃ tpl ∈ vts, ∃ fill : String → String,
        x = fillHoles id fill (scan tpl) ∧
          ∀ n ∈ holeNames (scan tpl), n ∉ t.alreadyEncoded →
            QuerySafe (fill n).toList ∧ ∀ d ∈ (fill n).toList, isPathDelimiter d = false) ∨
      (QuerySafe k.toList ∧ QuerySafe x.toList ∧
        ∀ d ∈ k.toList ++ x.toList, isPathDelimiter d = false) := by
  obtain ⟨t₀, vars, hbind, hfin, hpath₀, hq₀, henc₀⟩ := Factory.create_requestLine hE h
  obtain ⟨r₀, hres, hpath, henc, hq⟩ := Factory.finish_requestLine hfin
  obtain ⟨path, -, hexp, -, hrp, -, hre⟩ := resolve_requestLine hres
  simp only [Resolver.resolve_metadata, Resolver.resolve_strategy] at hpath₀ hq₀ henc₀ hres hexp hre
  -- the names the resolution treats as already encoded are those the call ends with
  have hencoded : ∀ n, n ∈ t.alreadyEncoded ↔ n ∈ m.template.alreadyEncoded ∨
      n ∈ m.encodedNames ∨ (Strategy.select m = .formEncoded ∧ n ∈ m.formParams) := by
    intro n
    rw [henc, hre, Template.mem_markEncoded, henc₀]
    tauto
  refine ⟨hencoded, fun hholes => ?_, fun k vs hk x hx => ?_⟩
  · -- the path: no placeholder is already encoded, so each is encoded as a segment
    obtain ⟨hbound, hp⟩ := expandPath_eq_ok hexp
    rw [Template.markEncoded_path, hpath₀] at hbound hp
    have hfill : t.path = fillHoles id (fun n => Percent.encodePathSegment (renderedText vars n))
        (scan m.template.path) := by
      rw [hpath, hrp, hp]
      refine fillHoles_congr fun n hn => if_neg fun hmem => ?_
      rw [← hre, ← henc, hencoded] at hmem
      obtain ⟨h₁, h₂, h₃⟩ := hholes n hn
      rcases hmem with hmem | hmem | ⟨hform, hmem⟩
      · exact h₁ hmem
      · exact h₂ hmem
      · exact h₃ hform hmem
    refine ⟨vars, hbind, hbound, hfill, ?_⟩
    rw [hfill]
    exact filter_fillHoles fun n _ => Percent.not_isPathDelimiter_encodePathSegment _
  · -- a query value: resolved from a value text of its key, or written by the merge
    rcases hq k vs hk with hk₀ | ⟨hname, hvalues⟩
    · obtain ⟨vts, hvts, tpl, htpl, hxtpl⟩ := resolve_query_value hres k vs hk₀ x hx
      rw [Template.markEncoded_queries, hq₀] at hvts
      obtain ⟨fill, hxfill, hsafe⟩ := querySafe_of_mem_expandedValues hxtpl
      refine .inl ⟨vts, hvts, tpl, htpl, fill, hxfill, fun n hn hnot => ?_⟩
      rw [henc, hre] at hnot
      -- query-safe text is all an argument writes there, and it holds no delimiter
      have hfill := hsafe n hn hnot
      exact ⟨hfill, hfill.not_isPathDelimiter⟩
    · have hpair := hname.append (hvalues x hx)
      exact .inr ⟨hname, hvalues x hx, hpair.not_isPathDelimiter⟩

theorem create_arguments_cannot_inject_slash :
    ∃ t, ((Resolver.withDefaults.resolve (Target.ofUrl "http://h")
        { template := { path := "/u/{id}", queries := ⟨[("q", ["{tag}"])], false⟩ },
          indexToName := [(0, ["id"]), (1, ["tag"])] }).create
        [.str "a/b?c#d", .str "x&y=z"]).result = .ok t ∧
      t.path.toList.filter isPathDelimiter =
        (literalText (scan "/u/{id}")).filter isPathDelimiter := by
  obtain ⟨t, h⟩ : ∃ t, ((Resolver.withDefaults.resolve (Target.ofUrl "http://h")
      { template := { path := "/u/{id}", queries := ⟨[("q", ["{tag}"])], false⟩ },
        indexToName := [(0, ["id"]), (1, ["tag"])] }).create
      [.str "a/b?c#d", .str "x&y=z"]).result = .ok t := ⟨_, rfl⟩
  obtain ⟨vars, -, -, -, hdelim⟩ := (create_arguments_cannot_inject Resolver.withDefaults
    Resolver.withDefaults_keepsRequestLine _ _ _ t h).2.1
    fun n _ => ⟨List.not_mem_nil, List.not_mem_nil, fun hs => absurd hs (by decide)⟩
  exact ⟨t, h, hdelim⟩

end HttpBlueprint
