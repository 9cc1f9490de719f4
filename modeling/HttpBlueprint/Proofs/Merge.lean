import HttpBlueprint.Proofs.Multimap
import HttpBlueprint.Http.Request
/-!
# Merging query and header map arguments

A query map or header map argument is read as a list of named entries: a map value
gives its own, any other value what the query-map encoder makes of it. A merge fails
exactly when the encoder is asked and fails, and then with the encoder's error.

Otherwise each entry, in order, rebinds one key of the template (`mergeQueryMap_eq`,
`mergeHeaderMap_eq`):

* a query map rebinds the percent-encoded name to the percent-encoded texts of the
  entry's value, nulls left out, and skips an entry left with no texts;
* a header map rebinds the name as it is to the texts of the entry's value, a null
  giving an absent value.

Nothing else of the template changes. Since these are replaces, a rebound key keeps
its position, and each key ends with what the last entry for it gave. A request built
from the template sends the present values of its headers and nothing else. A header
name is matched in the way the template's header map compares names: ignoring ASCII case
in a template built from a URI, exactly in the derived default
(`mergeHeaderMap_default_adds_header`).
-/

namespace HttpBlueprint

/-- The elements of a list value, or the value alone. -/
def Value.elements : Value → List Value
  | .list items => items
  | v => [v]

/-- The query values a map entry gives: the text of each element that is not null,
percent-encoded as a query component. -/
def queryMapValues (x : Value) : List String :=
  (x.elements.filter fun y => !y.isNull).map fun y => Percent.encodeQueryComponent y.display

/-- The header values a map entry gives: the text of each element, a null giving an
absent value. -/
def headerMapValues (x : Value) : List (Option String) :=
  x.elements.map fun y => if y.isNull then none else some y.display

example : headerMapValues .null = [none] := rfl

example : headerMapValues (.list []) = [] := rfl

/-- What one query map entry does to the queries: it rebinds the encoded name to the
entry's values, unless there are none. -/
def queryOverride (qs : Multimap String) (e : String × Value) : Multimap String :=
  if (queryMapValues e.2).isEmpty then qs
  else qs.replace (Percent.encodeQueryComponent e.1) (queryMapValues e.2)

/-- What one header map entry does to the headers: it rebinds the name to the entry's
values. -/
def headerOverride (hs : Multimap (Option String)) (e : String × Value) :
    Multimap (Option String) :=
  hs.replace e.1 (headerMapValues e.2)

/-! ## The texts of an entry -/

theorem textsOf_eq_headerMapValues (x : Value) : textsOf x = headerMapValues x := by
  cases x <;> rfl

theorem filterMap_textOf (items : List Value) :
    items.filterMap textOf = (items.filter fun y => !y.isNull).map Value.display := by
  induction items with
  | nil => rfl
  | cons y rest ih =>
    cases hy : y.isNull <;> simp [textOf, hy, ih]

theorem queryTexts_eq_queryMapValues (x : Value) :
    ((textsOf x).filterMap id).map Percent.encodeQueryComponent = queryMapValues x := by
  cases x with
  | list items =>
    have h : (items.map textOf).filterMap id = items.filterMap textOf := by
      rw [List.filterMap_map]
      rfl
    simp only [textsOf, queryMapValues, Value.elements, h, filterMap_textOf, List.map_map]
    rfl
  | _ => simp [textsOf, textOf, queryMapValues, Value.elements, Value.isNull]

/-! ## The entries of a map argument -/

/-- Reading a map argument fails exactly when it is not a map and the encoder fails. -/
theorem mapEntries_eq_error_iff {v : Value} {q : QueryMapEncoder} {e : Error} :
    mapEntries v q = .error e ↔ (∀ es, v ≠ .map es) ∧ q.encode v = .error e := by
  cases v with
  | map es => simp [mapEntries]
  | _ => simp [mapEntries]

/-- A map argument gives its own entries, and any other value the encoder's. -/
theorem mapEntries_eq_ok {v : Value} {q : QueryMapEncoder} {es : List (String × Value)}
    (h : v = .map es ∨ (∀ es', v ≠ .map es') ∧ q.encode v = .ok es) : mapEntries v q = .ok es := by
  rcases h with rfl | ⟨hv, henc⟩
  · rfl
  · cases v with
    | map es' => exact absurd rfl (hv es')
    | _ => exact henc

/-! ## The merges as folds over the entries -/

namespace Template

/-- A query map merge rebinds, entry by entry, the queries of the template and nothing
else. -/
theorem mergeQueryMap_eq (t : Template) (v : Value) (q : QueryMapEncoder) :
    t.mergeQueryMap v q =
      (mapEntries v q).map fun es => { t with queries := es.foldl queryOverride t.queries } := by
  unfold mergeQueryMap
  cases mapEntries v q with
  | error e => rfl
  | ok es =>
    show Except.ok _ = Except.ok { t with queries := es.foldl queryOverride t.queries }
    congr 1
    induction es generalizing t with
    | nil => rfl
    | cons e rest ih =>
      obtain ⟨name, x⟩ := e
      rw [List.foldl_cons, List.foldl_cons, ih]
      simp only [queryOverride, ← queryTexts_eq_queryMapValues]
      split <;> simp_all

/-- A header map merge rebinds, entry by entry, the headers of the template and nothing
else. -/
theorem mergeHeaderMap_eq (t : Template) (v : Value) (q : QueryMapEncoder) :
    t.mergeHeaderMap v q =
      (mapEntries v q).map fun es => { t with headers := es.foldl headerOverride t.headers } := by
  unfold mergeHeaderMap
  cases mapEntries v q with
  | error e => rfl
  | ok es =>
    show Except.ok _ = Except.ok { t with headers := es.foldl headerOverride t.headers }
    congr 1
    induction es generalizing t with
    | nil => rfl
    | cons e rest ih =>
      obtain ⟨name, x⟩ := e
      rw [List.foldl_cons, List.foldl_cons, ih]
      simp [headerOverride, textsOf_eq_headerMapValues]

end Template

/-! ## What a run of overrides leaves -/

/-- The query overrides are the replaces of the entries that give values. -/
theorem foldl_queryOverride (es : List (String × Value)) (qs : Multimap String) :
    es.foldl queryOverride qs =
      (es.filter fun e => !(queryMapValues e.2).isEmpty).foldl
        (fun qs e => qs.replace (Percent.encodeQueryComponent e.1) (queryMapValues e.2)) qs := by
  rw [List.foldl_filter]
  congr 1
  funext qs e
  cases h : (queryMapValues e.2).isEmpty <;> simp [queryOverride, h]

/-- After the query overrides, a key holds the values of the last entry for it that
gives values, or what it held before. -/
theorem get?_foldl_queryOverride (es : List (String × Value)) (qs : Multimap String)
    (key : String) :
    (es.foldl queryOverride qs).get? key =
      (((es.filter fun e => keyMatches qs.caseInsensitive (Percent.encodeQueryComponent e.1) key &&
          !(queryMapValues e.2).isEmpty).getLast?.map fun e => queryMapValues e.2).or (qs.get? key)) := by
  rw [foldl_queryOverride, ← List.filter_filter]
  have h := Multimap.find?_foldl_replace (fun e : String × Value => Percent.encodeQueryComponent e.1)
    (fun e => queryMapValues e.2) (es.filter fun e => !(queryMapValues e.2).isEmpty) qs key
  unfold Multimap.get? Multimap.lookupEntries
  -- a run of replaces keeps the key comparison, so the look-up is the entry found
  have hci : ((es.filter fun e => !(queryMapValues e.2).isEmpty).foldl
      (fun qs e => qs.replace (Percent.encodeQueryComponent e.1) (queryMapValues e.2)) qs).caseInsensitive =
        qs.caseInsensitive :=
    foldl_invariant
      (f := fun (qs : Multimap String) (e : String × Value) =>
        qs.replace (Percent.encodeQueryComponent e.1) (queryMapValues e.2))
      (fun m : Multimap String => m.caseInsensitive = qs.caseInsensitive) (fun _ _ h => h) _ rfl
  rw [hci, h]
  cases (List.filter _ _).getLast? <;> rfl

theorem classes_prefix_foldl_queryOverride (es : List (String × Value)) (qs : Multimap String) :
    qs.classes <+: (es.foldl queryOverride qs).classes := by
  rw [foldl_queryOverride]
  exact Multimap.classes_prefix_foldl_replace _ _ _ qs

theorem classes_prefix_foldl_headerOverride (es : List (String × Value))
    (hs : Multimap (Option String)) : hs.classes <+: (es.foldl headerOverride hs).classes :=
  Multimap.classes_prefix_foldl_replace (fun e : String × Value => e.1) (fun e => headerMapValues e.2)
    es hs

/-- After the header overrides, the entry of a name's class is the last entry for the
name, under its spelling and with its values, or the entry there was before. -/
theorem find?_foldl_headerOverride (es : List (String × Value)) (hs : Multimap (Option String))
    (name : String) :
    (es.foldl headerOverride hs).entries.find? (fun h => keyMatches hs.caseInsensitive h.1 name) =
      (((es.filter fun e => keyMatches hs.caseInsensitive e.1 name).getLast?.map fun e =>
        (e.1, headerMapValues e.2)).or (hs.entries.find? fun h => keyMatches hs.caseInsensitive h.1 name)) :=
  Multimap.find?_foldl_replace (fun e : String × Value => e.1) (fun e => headerMapValues e.2) es hs
    name

/-- A request sends, for each header in order, one header per present value. -/
theorem Template.toRequest_headers {t : Template} {req : Request} (h : t.toRequest = .ok req) :
    req.headers = t.headers.entries.flatMap fun h => (h.2.filterMap id).map (h.1, ·) := by
  unfold Template.toRequest at h
  cases hres : t.resolved
  · simp [hres] at h
  · cases hu : Url.parse t.url with
    | error e => simp [hres, hu, Except.mapError] at h
    | ok url =>
      simp [hres, hu, Except.mapError] at h
      subst h
      rfl

/-! ## The merge laws -/

/-- The query-map merge law. A merge fails exactly when the argument is not a map and
the encoder fails, with the encoder's error. Otherwise, over the entries of the map or
of the encoder, it rebinds in order each encoded name to the encoded texts of the
entry's non-null elements, skipping entries with none, and changes nothing else of the
template; every key keeps its position, new keys go last, and a key ends with the
values of the last entry for it that gives values, or keeps what it had. -/
theorem mergeQueryMap_law (t : Template) (v : Value) (q : QueryMapEncoder) :
    (∀ e, t.mergeQueryMap v q = .error e ↔ (∀ es, v ≠ .map es) ∧ q.encode v = .error e) ∧
    ∀ es, (v = .map es ∨ (∀ es', v ≠ .map es') ∧ q.encode v = .ok es) →
      let r : Template := { t with queries := es.foldl queryOverride t.queries }
      t.mergeQueryMap v q = .ok r ∧ t.queries.classes <+: r.queries.classes ∧
      ∀ key, r.queries.get? key =
        (((es.filter fun e =>
            keyMatches t.queries.caseInsensitive (Percent.encodeQueryComponent e.1) key &&
              !(queryMapValues e.2).isEmpty).getLast?.map fun e => queryMapValues e.2).or
          (t.queries.get? key)) := by
  refine ⟨fun e => ?_, fun es hes => ?_⟩
  · rw [Template.mergeQueryMap_eq, ← mapEntries_eq_error_iff]
    cases mapEntries v q <;> simp [Except.map]
  · refine ⟨?_, classes_prefix_foldl_queryOverride es t.queries,
      get?_foldl_queryOverride es t.queries⟩
    rw [Template.mergeQueryMap_eq, mapEntries_eq_ok hes]
    rfl

theorem mergeQueryMap_law_override :
    let t := Template.ofUri .get "/search?q=original&page=2"
    let es := [("q", Value.str "override"), ("page", .null)]
    (Value.map es = .map es ∨ (∀ es', Value.map es ≠ .map es') ∧
        QueryMapEncoder.fields.encode (.map es) = .ok es) ∧
      let r : Template := { t with queries := es.foldl queryOverride t.queries }
      t.mergeQueryMap (.map es) QueryMapEncoder.fields = .ok r ∧
      t.queries.classes <+: r.queries.classes ∧
      ∀ key, r.queries.get? key =
        (((es.filter fun e =>
            keyMatches t.queries.caseInsensitive (Percent.encodeQueryComponent e.1) key &&
              !(queryMapValues e.2).isEmpty).getLast?.map fun e => queryMapValues e.2).or
          (t.queries.get? key)) :=
  ⟨.inl rfl, (mergeQueryMap_law _ _ _).2 _ (.inl rfl)⟩

/-- The header-map merge law, for a header map that compares names ignoring ASCII case.
A merge fails exactly when the argument is not a map and the encoder fails, with the
encoder's error. Otherwise, over the entries of the map or of the encoder, it rebinds in
order the header of each entry's name, in any ASCII case, to the texts of the entry's
elements with a null absent, under the entry's spelling, and changes nothing else of the
template; every header keeps its position, new ones go last, and a name's header is the
last entry for it. A request built afterwards sends one header per present value. -/
theorem mergeHeaderMap_law (t : Template) (v : Value) (q : QueryMapEncoder)
    (hci : t.headers.caseInsensitive = true) :
    (∀ e, t.mergeHeaderMap v q = .error e ↔ (∀ es, v ≠ .map es) ∧ q.encode v = .error e) ∧
    ∀ es, (v = .map es ∨ (∀ es', v ≠ .map es') ∧ q.encode v = .ok es) →
      let r : Template := { t with headers := es.foldl headerOverride t.headers }
      t.mergeHeaderMap v q = .ok r ∧ t.headers.classes <+: r.headers.classes ∧
      (∀ name, r.headers.entries.find? (fun h => keyMatches true h.1 name) =
        (((es.filter fun e => keyMatches true e.1 name).getLast?.map fun e =>
          (e.1, headerMapValues e.2)).or (t.headers.entries.find? fun h => keyMatches true h.1 name))) ∧
      ∀ req, r.toRequest = .ok req →
        req.headers = r.headers.entries.flatMap fun h => (h.2.filterMap id).map (h.1, ·) := by
  refine ⟨fun e => ?_, fun es hes => ?_⟩
  · rw [Template.mergeHeaderMap_eq, ← mapEntries_eq_error_iff]
    cases mapEntries v q <;> simp [Except.map]
  · refine ⟨?_, classes_prefix_foldl_headerOverride es t.headers, fun name => ?_,
      fun req hreq => Template.toRequest_headers hreq⟩
    · rw [Template.mergeHeaderMap_eq, mapEntries_eq_ok hes]
      rfl
    · rw [← hci]
      exact find?_foldl_headerOverride es t.headers name

theorem mergeHeaderMap_law_null :
    let t := (Template.ofUri .get "/").header "X-Trace" "old"
    let es := [("x-trace", Value.list [.str "a b", .null]), ("X-Empty", .null)]
    t.headers.caseInsensitive = true ∧
    (Value.map es = .map es ∨ (∀ es', Value.map es ≠ .map es') ∧
        QueryMapEncoder.fields.encode (.map es) = .ok es) ∧
      let r : Template := { t with headers := es.foldl headerOverride t.headers }
      t.mergeHeaderMap (.map es) QueryMapEncoder.fields = .ok r ∧
      t.headers.classes <+: r.headers.classes ∧
      (∀ name, r.headers.entries.find? (fun h => keyMatches true h.1 name) =
        (((es.filter fun e => keyMatches true e.1 name).getLast?.map fun e =>
          (e.1, headerMapValues e.2)).or (t.headers.entries.find? fun h => keyMatches true h.1 name))) ∧
      ∀ req, r.toRequest = .ok req →
        req.headers = r.headers.entries.flatMap fun h => (h.2.filterMap id).map (h.1, ·) :=
  ⟨rfl, .inl rfl, (mergeHeaderMap_law _ _ _ rfl).2 _ (.inl rfl)⟩

/-- The template the derived default gives compares header names exactly: merging a map
with the name `a` into its header `A` adds a second header instead of replacing `A`. -/
theorem mergeHeaderMap_default_adds_header :
    ∃ r, (({} : Template).header "A" "1").mergeHeaderMap (.map [("a", .str "x")])
        QueryMapEncoder.fields = .ok r ∧
      r.headers.entries = [("A", [some "1"]), ("a", [some "x"])] :=
  ⟨_, rfl, by decide⟩

end HttpBlueprint
