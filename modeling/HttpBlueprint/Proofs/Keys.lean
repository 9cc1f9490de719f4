import HttpBlueprint.Proofs.Merge
import HttpBlueprint.Proofs.RequestLine
import HttpBlueprint.Proofs.Resolve
/-!
# Distinct keys of every template

A template keeps its query keys exact and its header names case-insensitive, with one
entry per key class in each (`Template.KeyInvariant`). Templates come from a URI or a
request line, and every template operation keeps the invariant (`Template.Step`):

* appends and replaces, through the template's own operations or directly on its
  maps, write a key into its class or add a new class last;
* the library's encoders set the body and replace `Content-Type`;
* resolution rebuilds both maps by appends from empty ones of the same kind, so it
  keeps the invariant whatever the maps held;
* merging a map argument replaces one key per entry.

So every template built by these operations has distinct keys: query keys exactly,
header names ignoring ASCII case (`keys_distinct_reachable`).
-/

namespace HttpBlueprint

/-! ## Multimaps with one entry per class -/

namespace Multimap

variable {α : Type}

/-- A multimap that compares keys as `ci` says and holds one entry per key class. -/
structure Keyed (ci : Bool) (m : Multimap α) : Prop where
  caseInsensitive_eq : m.caseInsensitive = ci
  nodup : m.classes.Nodup

theorem keyed_empty : (empty : Multimap α).Keyed false := ⟨rfl, List.nodup_nil⟩

theorem keyed_emptyCaseInsensitive : (emptyCaseInsensitive : Multimap α).Keyed true :=
  ⟨rfl, List.nodup_nil⟩

theorem Keyed.append {ci : Bool} {m : Multimap α} (h : m.Keyed ci) (key : String)
    (vals : List α) : (m.append key vals).Keyed ci :=
  ⟨h.caseInsensitive_eq, nodup_classes_append h.nodup key vals⟩

theorem Keyed.replace {ci : Bool} {m : Multimap α} (h : m.Keyed ci) (key : String)
    (vals : List α) : (m.replace key vals).Keyed ci :=
  ⟨h.caseInsensitive_eq, nodup_classes_replace h.nodup key vals⟩

/-- The keys of an exact-keyed multimap with one entry per class are distinct. -/
theorem Keyed.nodup_keys {m : Multimap α} (h : m.Keyed false) : (m.entries.map (·.1)).Nodup := by
  have hnd := h.nodup
  rw [classes, h.caseInsensitive_eq] at hnd
  simpa [keyClass] using hnd

/-- The keys of a case-insensitive multimap with one entry per class are distinct in
every ASCII case. -/
theorem Keyed.nodup_folded {m : Multimap α} (h : m.Keyed true) :
    (m.entries.map fun e => keyClass true e.1).Nodup := by
  have hnd := h.nodup
  rwa [classes, h.caseInsensitive_eq] at hnd

end Multimap

/-! ## The invariant of templates -/

namespace Template

open Multimap

/-- Exact query keys and case-insensitive header names, one entry per class in each. -/
structure KeyInvariant (t : Template) : Prop where
  queries : t.queries.Keyed false
  headers : t.headers.Keyed true

theorem KeyInvariant.distinctKeys {t : Template} (h : t.KeyInvariant) : t.DistinctKeys :=
  ⟨h.queries.nodup_keys, h.headers.nodup_folded⟩

theorem keyed_queriesOf (q : String) : (queriesOf q).Keyed false := by
  refine foldl_invariant (f := addQueryPiece) (Keyed false) (fun qs p h => ?_) _ keyed_empty
  rw [addQueryPiece_eq]
  exact h.append _ _

theorem keyInvariant_ofUri (m : Method) (u : String) : (ofUri m u).KeyInvariant := by
  constructor
  · rw [ofUri_queries]
    exact keyed_queriesOf _
  · rw [ofUri_headers]
    exact keyed_emptyCaseInsensitive

theorem keyInvariant_of_parse {line : String} {t : Template} (h : parse line = .ok t) :
    t.KeyInvariant := by
  obtain ⟨_, _, _, m, -, -, -, -, ht⟩ := parse_eq_ok_iff.1 h
  rw [ht]
  exact keyInvariant_ofUri m _

/-! ### Resolution -/

theorem keyed_resolveQuery {vars : Variables} {encoded : List String} {ci : Bool}
    {acc m : Multimap String} {e : String × List String} (hacc : acc.Keyed ci)
    (h : resolveQuery vars encoded acc e = .ok m) : m.Keyed ci := by
  obtain ⟨name, values⟩ := e
  rw [resolveQuery_spec h]
  split_ifs
  · exact hacc.append _ _
  · exact hacc
  · exact hacc.append _ _

theorem keyed_resolveHeader {vars : Variables} {ci : Bool} {acc m : Multimap (Option String)}
    {e : String × List (Option String)} (hacc : acc.Keyed ci)
    (h : resolveHeader vars acc e = .ok m) : m.Keyed ci := by
  obtain ⟨name, values⟩ := e
  unfold resolveHeader at h
  simp only [bind_eq_ok, pure_eq_ok] at h
  obtain ⟨expanded, -, rfl⟩ := h
  split
  · exact hacc
  · exact hacc.append _ _

/-- A resolution gives a template with the invariant, whatever the template held. -/
theorem keyInvariant_of_resolve {t r : Template} {vars : Variables} (h : t.resolve vars = .ok r) :
    r.KeyInvariant := by
  obtain ⟨-, queries, headers, -, -, hq, hh, rfl⟩ := resolve_eq_ok h
  exact ⟨foldlM_invariant (Keyed false) (fun _ _ _ _ hacc hstep => keyed_resolveQuery hacc hstep)
      keyed_empty hq,
    foldlM_invariant (Keyed true) (fun _ _ _ _ hacc hstep => keyed_resolveHeader hacc hstep)
      keyed_emptyCaseInsensitive hh⟩

/-! ### Merging map arguments -/

theorem keyInvariant_of_mergeQueryMap {t r : Template} {v : Value} {q : QueryMapEncoder}
    (ht : t.KeyInvariant) (h : t.mergeQueryMap v q = .ok r) : r.KeyInvariant := by
  rw [mergeQueryMap_eq] at h
  obtain ⟨es, -, rfl⟩ := map_eq_ok.1 h
  refine ⟨foldl_invariant (f := queryOverride) (Keyed false) (fun qs e hqs => ?_) es ht.queries,
    ht.headers⟩
  -- an entry left with no texts is skipped, any other replaces its key
  unfold queryOverride
  split
  · exact hqs
  · exact hqs.replace _ _

theorem keyInvariant_of_mergeHeaderMap {t r : Template} {v : Value} {q : QueryMapEncoder}
    (ht : t.KeyInvariant) (h : t.mergeHeaderMap v q = .ok r) : r.KeyInvariant := by
  rw [mergeHeaderMap_eq] at h
  obtain ⟨es, -, rfl⟩ := map_eq_ok.1 h
  exact ⟨ht.queries, foldl_invariant (f := headerOverride) (Keyed true)
    (fun hs e hhs => hhs.replace _ _) es ht.headers⟩

end Template

/-! ## Encoders -/

namespace Encoder

/-- The encoders of the library: JSON, and form encoders that hand other bodies to a
library encoder. -/
inductive Library : Encoder → Prop
  | json : Library json
  | form {d : Encoder} : Library d → Library (form d)

theorem keyInvariant_setBody {t : Template} (ht : t.KeyInvariant) (ct : ContentType)
    (body : String) : (setBody t ct body).KeyInvariant :=
  ⟨ht.queries, ht.headers.replace _ _⟩

/-- A library encoder keeps the invariant: it only sets the body and `Content-Type`. -/
theorem Library.keyInvariant {e : Encoder} (he : e.Library) :
    ∀ {p : Value} {bt : BodyType} {t t' : Template}, t.KeyInvariant → e.encode p bt t = .ok t' →
      t'.KeyInvariant := by
  induction he with
  | json =>
    intro p bt t t' ht h
    cases h
    exact keyInvariant_setBody ht _ _
  | form _ ih =>
    intro p bt t t' ht h
    simp only [Encoder.form] at h
    split at h
    · split at h
      · cases h
        exact keyInvariant_setBody ht _ _
      · cases h
    · exact ih ht h

end Encoder

/-! ## Reachable templates -/

namespace Template

/-- One operation on a template: its own operations, an append or replace on one of
its maps, an encoding by a library encoder, a resolution, or a merge of a map
argument. -/
inductive Step : Template → Template → Prop
  | query (t : Template) (name value : String) : Step t (t.query name value)
  | header (t : Template) (name value : String) : Step t (t.header name value)
  | setHeader (t : Template) (name value : String) : Step t (t.setHeader name value)
  | withBodyTemplate (t : Template) (s : String) : Step t (t.withBodyTemplate s)
  | withTarget (t : Template) (s : String) : Step t (t.withTarget s)
  | withBody (t : Template) (s : String) : Step t (t.withBody s)
  | markEncoded (t : Template) (names : List String) : Step t (t.markEncoded names)
  | appendQuery (t : Template) (name : String) (vals : List String) :
      Step t { t with queries := t.queries.append name vals }
  | replaceQuery (t : Template) (name : String) (vals : List String) :
      Step t { t with queries := t.queries.replace name vals }
  | appendHeader (t : Template) (name : String) (vals : List (Option String)) :
      Step t { t with headers := t.headers.append name vals }
  | replaceHeader (t : Template) (name : String) (vals : List (Option String)) :
      Step t { t with headers := t.headers.replace name vals }
  | encode {e : Encoder} (he : e.Library) (t : Template) (p : Value) (bt : BodyType)
      {t' : Template} (h : e.encode p bt t = .ok t') : Step t t'
  | resolve (t : Template) (vars : Variables) {t' : Template} (h : t.resolve vars = .ok t') :
      Step t t'
  | mergeQueryMap (t : Template) (v : Value) (q : QueryMapEncoder) {t' : Template}
      (h : t.mergeQueryMap v q = .ok t') : Step t t'
  | mergeHeaderMap (t : Template) (v : Value) (q : QueryMapEncoder) {t' : Template}
      (h : t.mergeHeaderMap v q = .ok t') : Step t t'

/-- The templates made from a URI or a request line by any run of operations. -/
inductive Reachable : Template → Prop
  | ofUri (m : Method) (uri : String) : Reachable (ofUri m uri)
  | parse {line : String} {t : Template} (h : parse line = .ok t) : Reachable t
  | step {t t' : Template} : Reachable t → Step t t' → Reachable t'

/-- Every operation keeps the invariant. -/
theorem Step.keyInvariant {t t' : Template} (hs : Step t t') (ht : t.KeyInvariant) :
    t'.KeyInvariant := by
  cases hs with
  | query _ name value => exact ⟨ht.queries.append _ _, ht.headers⟩
  | header _ name value => exact ⟨ht.queries, ht.headers.append _ _⟩
  | setHeader _ name value => exact ⟨ht.queries, ht.headers.replace _ _⟩
  | withBodyTemplate _ s => exact ⟨ht.queries, ht.headers⟩
  | withTarget _ s => exact ⟨ht.queries, ht.headers⟩
  | withBody _ s => exact ⟨ht.queries, ht.headers⟩
  | markEncoded _ names => exact ⟨ht.queries, ht.headers⟩
  | appendQuery _ name vals => exact ⟨ht.queries.append _ _, ht.headers⟩
  | replaceQuery _ name vals => exact ⟨ht.queries.replace _ _, ht.headers⟩
  | appendHeader _ name vals => exact ⟨ht.queries, ht.headers.append _ _⟩
  | replaceHeader _ name vals => exact ⟨ht.queries, ht.headers.replace _ _⟩
  | encode he _ p bt h => exact he.keyInvariant ht h
  | resolve _ vars h => exact keyInvariant_of_resolve h
  | mergeQueryMap _ v q h => exact keyInvariant_of_mergeQueryMap ht h
  | mergeHeaderMap _ v q h => exact keyInvariant_of_mergeHeaderMap ht h

/-- Every reachable template has the invariant. -/
theorem Reachable.keyInvariant {t : Template} (h : Reachable t) : t.KeyInvariant := by
  induction h with
  | ofUri m uri => exact keyInvariant_ofUri m uri
  | parse h => exact keyInvariant_of_parse h
  | step _ hs ih => exact hs.keyInvariant ih

end Template

/-- Multimaps written from empty ones stand for ordered maps of key classes, and every
template made from a URI or a request line by template operations has distinct query
keys and header names distinct in every ASCII case, with its maps comparing keys so. -/
theorem keys_distinct_reachable :
    (∀ (α : Type) (ci : Bool) (ws : List (Multimap.Write α)),
      (ws.foldl Multimap.write
        (if ci then Multimap.emptyCaseInsensitive else Multimap.empty)).OrderedMap ci ws) ∧
    ∀ t : Template, t.Reachable →
      t.DistinctKeys ∧ t.queries.caseInsensitive = false ∧ t.headers.caseInsensitive = true :=
  ⟨fun _ => Multimap.writeAll_orderedMap, fun _ ht =>
    ⟨ht.keyInvariant.distinctKeys, ht.keyInvariant.queries.caseInsensitive_eq,
      ht.keyInvariant.headers.caseInsensitive_eq⟩⟩

/-- A header set in another case after an append keeps one entry. -/
theorem keys_distinct_reachable_setHeader :
    let t := ((Template.ofUri .get "/a?x=1&x=2").header "Accept" "text/plain").setHeader
      "accept" "application/json"
    t.Reachable ∧ t.DistinctKeys ∧ t.queries.caseInsensitive = false ∧
      t.headers.caseInsensitive = true :=
  have hreach : Template.Reachable (((Template.ofUri .get "/a?x=1&x=2").header "Accept"
      "text/plain").setHeader "accept" "application/json") :=
    .step (.step (.ofUri _ _) (.header _ _ _)) (.setHeader _ _ _)
  ⟨hreach, keys_distinct_reachable.2 _ hreach⟩

end HttpBlueprint
