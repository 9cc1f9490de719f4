import HttpBlueprint.Proofs.Keys
/-!
# The headers a request carries

A template sends, header by header in its order, one pair per present value; absent
values are left out. A request looks a header up by scanning these pairs for the first
name that matches in any ASCII case, while the template looks it up in its
case-insensitive multimap. The two agree on every template made by template
operations: its header names are distinct in every ASCII case, so the first pair of a
name's class is the first present value of the one header of that class.

Building a request fails with an invalid argument exactly when the template is not
resolved, and otherwise only when its URL does not read as an absolute URL.
-/

namespace HttpBlueprint

/-! ## The pairs of a header map -/

/-- Each present value of each header is sent once. -/
theorem length_headerPairs :
    ∀ es : List (String × List (Option String)),
      (es.flatMap fun h => (h.2.filterMap id).map (h.1, ·)).length =
        (es.flatMap (·.2)).countP Option.isSome
  | [] => rfl
  | (k, vs) :: rest => by
    rw [List.flatMap_cons, List.flatMap_cons, List.length_append, List.countP_append,
      length_headerPairs rest, List.length_map, List.length_filterMap_eq_countP]
    rfl

/-- No pair of headers whose names are all of another class matches a name. -/
theorem find?_headerPairs_eq_none {n : String} :
    ∀ {es : List (String × List (Option String))},
      (∀ e ∈ es, keyMatches true e.1 n = false) →
        (es.flatMap fun h => (h.2.filterMap id).map (h.1, ·)).find?
          (fun h => keyMatches true h.1 n) = none := by
  intro es hes
  rw [List.find?_eq_none]
  intro x hx
  obtain ⟨e, he, hx⟩ := List.mem_flatMap.1 hx
  obtain ⟨v, -, rfl⟩ := List.mem_map.1 hx
  simp [hes e he]

/-- Among headers whose names are distinct in every ASCII case, the first sent pair that
a name matches carries the first present value of the one header of its class. -/
theorem find?_headerPairs {n : String} :
    ∀ {es : List (String × List (Option String))}, (es.map fun e => keyClass true e.1).Nodup →
      ((es.flatMap fun h => (h.2.filterMap id).map (h.1, ·)).find?
          (fun h => keyMatches true h.1 n)).map (·.2) =
        (((Multimap.lookupEntries true es n).getD []).filterMap id).head?
  | [], _ => rfl
  | (k, vs) :: rest, hnd => by
    rw [List.map_cons, List.nodup_cons] at hnd
    obtain ⟨hfresh, hnd'⟩ := hnd
    rw [List.flatMap_cons, List.find?_append, Multimap.lookupEntries_cons]
    by_cases hk : keyMatches true k n
    · -- the header of the name's class: no later header is of that class
      have hlater : ∀ e ∈ rest, keyMatches true e.1 n = false := by
        intro e he
        refine Bool.eq_false_iff.2 fun hmatch => hfresh ?_
        rw [keyMatches_iff.1 hk, ← keyMatches_iff.1 hmatch]
        exact List.mem_map_of_mem he
      rw [find?_headerPairs_eq_none hlater, Option.or_none, if_pos hk, Option.getD_some]
      cases (vs.filterMap id) with
      | nil => rfl
      | cons v more => simp [hk]
    · -- a header of another class sends no matching pair
      have hnone : ((vs.filterMap id).map (k, ·)).find? (fun h => keyMatches true h.1 n) = none := by
        rw [List.find?_eq_none]
        intro x hx
        obtain ⟨v, -, rfl⟩ := List.mem_map.1 hx
        simpa using hk
      rw [hnone, Option.none_or, if_neg hk]
      exact find?_headerPairs hnd'

/-! ## Building a request -/

/-- Building a request fails when the template is not resolved, and otherwise exactly
when its URL does not read. -/
theorem toRequest_eq_error {t : Template} {e : Error} :
    t.toRequest = .error e ↔
      (t.resolved = false ∧
        e = .invalidArgument "request template must be resolved before it is sent") ∨
      (t.resolved = true ∧ ∃ pe, Url.parse t.url = .error pe ∧ e = .invalidUrl pe) := by
  unfold Template.toRequest
  cases hres : t.resolved with
  | false =>
    simp [throw, throwThe, MonadExceptOf.throw, error_bind, eq_comm]
  | true =>
    cases hu : Url.parse t.url with
    | error pe => simp [Except.mapError, eq_comm]
    | ok url => simp [Except.mapError]

/-- The transport law. On a template made by template operations that builds a request,
the request sends, header by header, one pair per present value, so as many pairs as
there are present values; and looking a name up in the request gives the first present
value the template binds to the name, nothing when it binds none or only absent values.
Building a request fails with an invalid argument exactly when the template is not
resolved, and a resolved template fails exactly when its URL does not read. -/
theorem toRequest_headers_agree (t : Template) (ht : t.Reachable) :
    (∀ req, t.toRequest = .ok req →
      req.headers = t.headers.entries.flatMap (fun h => (h.2.filterMap id).map (h.1, ·)) ∧
      req.headers.length = (t.headers.entries.flatMap (·.2)).countP Option.isSome ∧
      ∀ n, req.header? n = (((t.headers.get? n).getD []).filterMap id).head? ∧
        (req.header? n = none ↔ ∀ vs, t.headers.get? n = some vs → ∀ v ∈ vs, v = none)) ∧
    ((∃ msg, t.toRequest = .error (.invalidArgument msg)) ↔ t.resolved = false) ∧
    (t.resolved = true → ((∃ e, t.toRequest = .error e) ↔ ∃ pe, Url.parse t.url = .error pe)) := by
  have hkeyed := ht.keyInvariant.headers
  refine ⟨fun req hreq => ?_, ?_, fun hres => ?_⟩
  · have hheaders := Template.toRequest_headers hreq
    -- a request's look-up scans the sent pairs; the template's reads the header's class
    have hfirst : ∀ n, req.header? n = (((t.headers.get? n).getD []).filterMap id).head? := by
      intro n
      rw [Request.header?, hheaders, Multimap.get?, hkeyed.caseInsensitive_eq]
      exact find?_headerPairs hkeyed.nodup_folded
    refine ⟨hheaders, by rw [hheaders, length_headerPairs], fun n => ⟨hfirst n, ?_⟩⟩
    rw [hfirst n, List.head?_eq_none_iff, List.filterMap_eq_nil_iff]
    cases t.headers.get? n with
    | none => simp
    | some vs => simp
  · constructor
    · rintro ⟨msg, hmsg⟩
      rcases toRequest_eq_error.1 hmsg with ⟨hres, -⟩ | ⟨-, pe, -, hpe⟩
      · exact hres
      · cases hpe
    · intro hres
      exact ⟨_, toRequest_eq_error.2 (.inl ⟨hres, rfl⟩)⟩
  · constructor
    · rintro ⟨e, he⟩
      rcases toRequest_eq_error.1 he with ⟨hfalse, -⟩ | ⟨-, pe, hpe, -⟩
      · rw [hres] at hfalse
        cases hfalse
      · exact ⟨pe, hpe⟩
    · rintro ⟨pe, hpe⟩
      exact ⟨_, toRequest_eq_error.2 (.inr ⟨hres, pe, hpe, rfl⟩)⟩

/-- A template with a header appended that was never resolved is refused with an
invalid argument. -/
theorem toRequest_headers_agree_unresolved :
    ((Template.ofUri .get "http://h/a").header "Accept" "x").Reachable ∧
      ∃ msg, ((Template.ofUri .get "http://h/a").header "Accept" "x").toRequest =
        .error (.invalidArgument msg) :=
  have hreach : ((Template.ofUri .get "http://h/a").header "Accept" "x").Reachable :=
    .step (.ofUri _ _) (.header _ _ _)
  ⟨hreach, (toRequest_headers_agree _ hreach).2.1.2 rfl⟩

end HttpBlueprint
