import HttpBlueprint.Proofs.Placeholder
/-!
# The resolution law

What `Template.resolve` makes of a template when it succeeds, said without its
folds: method, target, already-encoded names and body template stay; the path is
filled; each query key and each header becomes what its values expand to, in the
template's key order; the body template, when there is one, gives the body.

Queries and headers differ in three places: query values are percent-encoded
unless their name is already encoded while header values are written as they are;
a header value that is absent stays absent; and a query key that had no values is
kept with none, while a header left with no values is dropped.

The keys of a template are distinct, query keys exactly and header names ignoring
ASCII case (`Template.DistinctKeys`): the rebuilt maps then keep one entry per key
of the template, in its order. Every template built from a URI or a request line is so
(`keys_distinct_reachable`), but not every template: the derived default compares header
names exactly, and two names equal but for case then become one header
(`resolve_default_joins_headers`).
-/

namespace HttpBlueprint

open Segment

/-- How the rendering of a query placeholder is written: as it is for an already
encoded name, else percent-encoded as a query component. -/
def queryEncoding (encoded : List String) (n raw : String) : String :=
  if n ∈ encoded then raw else Percent.encodeQueryComponent raw

/-- What a query key of a template becomes: kept with no values when it had none,
else given the values its value texts expand to, and dropped when none remain. -/
def resolvedQuery (vars : Variables) (encoded : List String) (entry : String × List String) :
    Option (String × List String) :=
  if entry.2.isEmpty then some (entry.1, [])
  else
    let values := entry.2.flatMap (expandedValues vars (queryEncoding encoded))
    if values.isEmpty then none else some (entry.1, values)

/-- What a header of a template becomes: its text values expand, written as they
are, its absent values stay absent, and a header left with no values is dropped. -/
def resolvedHeader (vars : Variables) (entry : String × List (Option String)) :
    Option (String × List (Option String)) :=
  let values := entry.2.flatMap fun
    | some text => (expandedValues vars (fun _ raw => raw) text).map some
    | none => [none]
  if values.isEmpty then none else some (entry.1, values)

/-- The keys of a template's maps are distinct: query keys exactly, header names
ignoring ASCII case. Every template built by the engine's own operations is so. -/
structure Template.DistinctKeys (t : Template) : Prop where
  queries : (t.queries.entries.map (·.1)).Nodup
  headers : (t.headers.entries.map fun e => keyClass true e.1).Nodup

/-! ## Folds that build a list -/

/-- A fold that appends what each step gives builds the concatenation. -/
theorem foldlM_append_eq_ok {ε α β : Type} {step : List β → α → Except ε (List β)}
    (spec : α → List β) (hstep : ∀ out a r, step out a = .ok r → r = out ++ spec a) :
    ∀ (l : List α) (out₀ out : List β), l.foldlM step out₀ = .ok out →
      out = out₀ ++ l.flatMap spec
  | [], out₀, out, h => by
    simp only [List.foldlM_nil, pure_eq_ok] at h
    simp [h]
  | a :: rest, out₀, out, h => by
    obtain ⟨out₁, h₁, hrest⟩ := foldlM_cons_eq_ok.1 h
    rw [foldlM_append_eq_ok spec hstep rest out₁ out hrest, hstep out₀ a out₁ h₁]
    simp

/-! ## One key at a time -/

theorem queryEncoding_eq (encoded : List String) :
    (fun (n raw : String) => if encoded.contains n then raw else Percent.encodeQueryComponent raw) =
      queryEncoding encoded := by
  funext n raw
  simp [queryEncoding]

/-- Resolving one query key appends the key with no values when it has none, and
otherwise the values its value texts expand to, when there are any. -/
theorem resolveQuery_spec {vars : Variables} {encoded : List String} {acc m : Multimap String}
    {name : String} {values : List String}
    (h : Template.resolveQuery vars encoded acc (name, values) = .ok m) :
    m = if values.isEmpty then acc.append name []
      else if (values.flatMap (expandedValues vars (queryEncoding encoded))).isEmpty then acc
      else acc.append name (values.flatMap (expandedValues vars (queryEncoding encoded))) := by
  unfold Template.resolveQuery at h
  by_cases hempty : values.isEmpty
  · simp only [hempty, if_true, pure_eq_ok] at h
    rw [if_pos hempty, h]
  · simp only [hempty, Bool.false_eq_true, if_false, bind_eq_ok, pure_eq_ok] at h
    obtain ⟨expanded, hexp, rfl⟩ := h
    -- the value texts are expanded one after another and their values concatenated
    have hvalues := foldlM_append_eq_ok (expandedValues vars (queryEncoding encoded))
      (fun out v r hr => by
        obtain ⟨x, hx, rfl⟩ := by simpa only [bind_eq_ok, pure_eq_ok] using hr
        rw [expandValue_eq_ok hx, queryEncoding_eq]) values [] expanded hexp
    rw [List.nil_append] at hvalues
    simp [hempty, hvalues]

/-- Resolving one query key appends what the key becomes, when it is new. -/
theorem resolveQuery_eq_ok {vars : Variables} {encoded : List String}
    {acc : List (String × List String)} {name : String} {values : List String}
    {m : Multimap String} (hfresh : name ∉ acc.map (·.1))
    (h : Template.resolveQuery vars encoded ⟨acc, false⟩ (name, values) = .ok m) :
    m = ⟨acc ++ (resolvedQuery vars encoded (name, values)).toList, false⟩ := by
  have happend : ∀ vs, Multimap.append ⟨acc, false⟩ name vs = ⟨acc ++ [(name, vs)], false⟩ :=
    fun vs => by
      simp only [Multimap.append]
      rw [Multimap.appendEntries_of_forall_not_keyMatches]
      intro e he
      have hne : e.1 ≠ name := fun heq => hfresh (List.mem_map.2 ⟨e, he, heq⟩)
      simp [keyMatches, keyClass, hne]
  rw [resolveQuery_spec h]
  by_cases hempty : values.isEmpty
  · simp [happend, resolvedQuery, hempty]
  · by_cases hnone : (values.flatMap (expandedValues vars (queryEncoding encoded))).isEmpty
    · simp [resolvedQuery, hempty, hnone]
    · simp [resolvedQuery, hempty, hnone, happend]

/-- Resolving one header appends what the header becomes, when its name is new in
every ASCII case. -/
theorem resolveHeader_eq_ok {vars : Variables} {acc : List (String × List (Option String))}
    {name : String} {values : List (Option String)} {m : Multimap (Option String)}
    (hfresh : keyClass true name ∉ acc.map fun e => keyClass true e.1)
    (h : Template.resolveHeader vars ⟨acc, true⟩ (name, values) = .ok m) :
    m = ⟨acc ++ (resolvedHeader vars (name, values)).toList, true⟩ := by
  have happend : ∀ vs, Multimap.append ⟨acc, true⟩ name vs = ⟨acc ++ [(name, vs)], true⟩ :=
    fun vs => by
      simp only [Multimap.append]
      rw [Multimap.appendEntries_of_forall_not_keyMatches]
      intro e he
      have hne : keyClass true e.1 ≠ keyClass true name :=
        fun heq => hfresh (List.mem_map.2 ⟨e, he, heq⟩)
      simpa [keyMatches] using hne
  unfold Template.resolveHeader at h
  simp only [bind_eq_ok, pure_eq_ok] at h
  obtain ⟨expanded, hexp, rfl⟩ := h
  have hvalues := foldlM_append_eq_ok (fun
      | some text => (expandedValues vars (fun _ raw => raw) text).map some
      | none => [none])
    (fun out v r hr => by
      cases v with
      | some text =>
        obtain ⟨x, hx, rfl⟩ := by simpa only [bind_eq_ok, pure_eq_ok] using hr
        rw [expandValue_eq_ok hx]
      | none =>
        simp only [pure_eq_ok] at hr
        exact hr.symm) values [] expanded hexp
  rw [List.nil_append] at hvalues
  subst hvalues
  by_cases hnone : (values.flatMap fun
      | some text => (expandedValues vars (fun _ raw => raw) text).map some
      | none => [none]).isEmpty
  · simp [resolvedHeader, hnone]
  · simp [resolvedHeader, hnone, happend]

/-! ## Whole maps -/

/-- Rebuilding a map key by key from distinct keys, where each step appends what its
key becomes under the key's own name, appends what every key becomes, in order. -/
theorem foldlM_rebuild {β : Type} {ci : Bool} (cls : String → String)
    {step : Multimap β → String × List β → Except Error (Multimap β)}
    {spec : String × List β → Option (String × List β)}
    (hname : ∀ e e', spec e = some e' → e'.1 = e.1)
    (hstep : ∀ acc e m, cls e.1 ∉ acc.map (fun a => cls a.1) → step ⟨acc, ci⟩ e = .ok m →
      m = ⟨acc ++ (spec e).toList, ci⟩) :
    ∀ (entries acc : List (String × List β)) (m : Multimap β),
      (entries.map fun e => cls e.1).Nodup →
      (∀ e ∈ entries, cls e.1 ∉ acc.map fun a => cls a.1) →
      entries.foldlM step ⟨acc, ci⟩ = .ok m → m = ⟨acc ++ entries.filterMap spec, ci⟩
  | [], acc, m, _, _, h => by
    simp only [List.foldlM_nil, pure_eq_ok] at h
    simp [← h]
  | e :: rest, acc, m, hnd, hfresh, h => by
    obtain ⟨m₁, hstep₁, hrest⟩ := foldlM_cons_eq_ok.1 h
    rw [hstep acc e m₁ (hfresh e (by simp)) hstep₁] at hrest
    rw [List.map_cons] at hnd
    obtain ⟨hnew, hnd'⟩ := List.nodup_cons.1 hnd
    -- the keys still to come are new: none is an earlier key or this one, and what
    -- this key becomes keeps its name
    have hfresh' : ∀ e' ∈ rest, cls e'.1 ∉ (acc ++ (spec e).toList).map fun a => cls a.1 := by
      intro e' he' hmem
      rcases List.mem_append.1 (List.map_append ▸ hmem) with hacc | hthis
      · exact hfresh e' (by simp [he']) hacc
      · obtain ⟨a, ha, hcls⟩ := List.mem_map.1 hthis
        rw [hname e a (Option.mem_toList.1 ha)] at hcls
        exact hnew (List.mem_map.2 ⟨e', he', hcls.symm⟩)
    rw [foldlM_rebuild cls hname hstep rest _ m hnd' hfresh' hrest]
    cases hspec : spec e <;> simp [hspec]

theorem resolvedQuery_name {vars : Variables} {encoded : List String}
    {e e' : String × List String} (h : resolvedQuery vars encoded e = some e') : e'.1 = e.1 := by
  unfold resolvedQuery at h
  split at h
  · cases h
    rfl
  · dsimp only at h
    split at h
    · cases h
    · cases h
      rfl

theorem resolvedHeader_name {vars : Variables} {e e' : String × List (Option String)}
    (h : resolvedHeader vars e = some e') : e'.1 = e.1 := by
  unfold resolvedHeader at h
  dsimp only at h
  split at h
  · cases h
  · cases h
    rfl

/-- A resolution that succeeds expands the path, rebuilds the queries and the headers
key by key from empty maps, and changes nothing else but the body and the mark. -/
theorem Template.resolve_eq_ok {t r : Template} {vars : Variables} (h : t.resolve vars = .ok r) :
    ∃ path queries headers body, expandPath t.path vars t.alreadyEncoded = .ok path ∧
      t.queries.entries.foldlM (resolveQuery vars t.alreadyEncoded) Multimap.empty = .ok queries ∧
      t.headers.entries.foldlM (resolveHeader vars) Multimap.emptyCaseInsensitive = .ok headers ∧
      r = { t with path, queries, headers, body, resolved := true } := by
  unfold Template.resolve at h
  simp only [bind_eq_ok] at h
  obtain ⟨path, hpath, queries, hqueries, headers, hheaders, hbody⟩ := h
  -- however the body is made, the rest is what was built before it
  cases hbt : t.bodyTemplate with
  | none =>
    simp only [hbt, bind_eq_ok, pure_eq_ok] at hbody
    obtain ⟨body, -, rfl⟩ := hbody
    exact ⟨path, queries, headers, body, hpath, hqueries, hheaders, rfl⟩
  | some bt =>
    simp only [hbt, bind_eq_ok, map_eq_ok, pure_eq_ok] at hbody
    obtain ⟨body, -, rfl⟩ := hbody
    exact ⟨path, queries, headers, body, hpath, hqueries, hheaders, rfl⟩

/-! ## The law -/

/-- Resolution, when it succeeds, keeps the method, target, already-encoded names
and body template and marks the template resolved. The path is filled, every
placeholder bound to a value that renders and written percent-encoded as a path
segment unless its name is already encoded. The query keys are, in the template's
order, the keys without values (kept without values) and the keys whose values
expand to some; the headers are, in order, those whose values expand to some, with
absent values kept. The body template, when there is one, gives the body. -/
theorem resolve_eq_ok_spec {t : Template} {vars : Variables} {r : Template}
    (hkeys : t.DistinctKeys) (h : t.resolve vars = .ok r) :
    r.method = t.method ∧ r.target = t.target ∧ r.alreadyEncoded = t.alreadyEncoded ∧
    r.bodyTemplate = t.bodyTemplate ∧ r.resolved = true ∧
    (∀ n ∈ holeNames (scan t.path), ∃ v raw, vars.get? n = some v ∧ v.render = some raw) ∧
    r.path = fillHoles id (fun n => if n ∈ t.alreadyEncoded then renderedText vars n
      else Percent.encodePathSegment (renderedText vars n)) (scan t.path) ∧
    r.queries = ⟨t.queries.entries.filterMap (resolvedQuery vars t.alreadyEncoded), false⟩ ∧
    r.headers = ⟨t.headers.entries.filterMap (resolvedHeader vars), true⟩ ∧
    r.body = match t.bodyTemplate with
      | some bt => some (fillHoles (fun lit => String.ofList (unescapeBraces lit.toList))
          (renderedText vars) (scan bt))
      | none => t.body := by
  unfold Template.resolve at h
  simp only [bind_eq_ok] at h
  obtain ⟨path, hpath, queries, hqueries, headers, hheaders, hbody⟩ := h
  obtain ⟨hbound, rfl⟩ := expandPath_eq_ok hpath
  have hq := foldlM_rebuild (fun k => k) (fun _ _ => resolvedQuery_name)
    (fun _ _ _ hfresh hstep => resolveQuery_eq_ok hfresh hstep) t.queries.entries [] queries
    (by simpa using hkeys.queries) (by simp) hqueries
  have hh := foldlM_rebuild (keyClass true) (fun _ _ => resolvedHeader_name)
    (fun _ _ _ hfresh hstep => resolveHeader_eq_ok hfresh hstep) t.headers.entries [] headers
    hkeys.headers (by simp) hheaders
  simp only [List.nil_append] at hq hh
  subst hq hh
  -- the body is the last step: it decides the template that comes out
  cases hbt : t.bodyTemplate with
  | none =>
    simp only [hbt, bind_eq_ok, pure_eq_ok] at hbody
    obtain ⟨body, rfl, rfl⟩ := hbody
    exact ⟨rfl, rfl, rfl, rfl, rfl, hbound, rfl, rfl, rfl, rfl⟩
  | some bt =>
    simp only [hbt, bind_eq_ok, map_eq_ok, pure_eq_ok] at hbody
    obtain ⟨body, ⟨b, hb, rfl⟩, rfl⟩ := hbody
    obtain ⟨-, rfl⟩ := expandBody_eq_ok hb
    exact ⟨rfl, rfl, rfl, rfl, rfl, hbound, rfl, rfl, rfl, rfl⟩

/-- A query value that is a list placeholder, a query key without values and a header
with an absent value, under distinct keys. -/
theorem resolve_spec_tags :
    ∃ r,
      Template.DistinctKeys
        { path := "/u/{id}", queries := ⟨[("q", ["{tags}"]), ("flag", [])], false⟩,
          headers := ⟨[("X-Id", [some "{id}", none])], true⟩ } ∧
      Template.resolve
        { path := "/u/{id}", queries := ⟨[("q", ["{tags}"]), ("flag", [])], false⟩,
          headers := ⟨[("X-Id", [some "{id}", none])], true⟩ }
        ⟨[("id", .str "7"), ("tags", .list [.str "a", .null])]⟩ = .ok r ∧
      r.queries = ⟨[("q", ["{tags}"]), ("flag", [])].filterMap
        (resolvedQuery ⟨[("id", .str "7"), ("tags", .list [.str "a", .null])]⟩ []), false⟩ := by
  have hkeys : Template.DistinctKeys
      { path := "/u/{id}", queries := ⟨[("q", ["{tags}"]), ("flag", [])], false⟩,
        headers := ⟨[("X-Id", [some "{id}", none])], true⟩ } :=
    ⟨by decide, by simp [keyClass]⟩
  obtain ⟨r, hr⟩ : ∃ r, Template.resolve
      { path := "/u/{id}", queries := ⟨[("q", ["{tags}"]), ("flag", [])], false⟩,
        headers := ⟨[("X-Id", [some "{id}", none])], true⟩ }
      ⟨[("id", .str "7"), ("tags", .list [.str "a", .null])]⟩ = .ok r := ⟨_, rfl⟩
  exact ⟨r, hkeys, hr, (resolve_eq_ok_spec hkeys hr).2.2.2.2.2.2.2.1⟩

/-- The template the derived default gives compares header names exactly, so it can hold
both `A` and `a`. Resolution rebuilds the headers in a map that ignores case, where the
two become one header `A` holding both values. -/
theorem resolve_default_joins_headers :
    ((({} : Template).header "A" "1").header "a" "2").headers.entries =
        [("A", [some "1"]), ("a", [some "2"])] ∧
      ∃ r, ((({} : Template).header "A" "1").header "a" "2").resolve {} = .ok r ∧
        r.headers.entries = [("A", [some "1", some "2"])] := by
  have hAa : keyMatches true "A" "a" = true :=
    keyMatches_iff.2 (String.toList_inj.1 (by simp [keyClass, String.toList_map]))
  refine ⟨by decide, _, rfl, ?_⟩
  -- the resolved headers are the two appended in turn to an empty map that ignores case
  show (Multimap.append (Multimap.append Multimap.emptyCaseInsensitive "A" [some "1"]) "a"
    [some "2"]).entries = _
  simp [Multimap.append, Multimap.appendEntries, Multimap.emptyCaseInsensitive, hAa]

end HttpBlueprint
