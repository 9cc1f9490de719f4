import HttpBlueprint.Proofs.Resolve
/-!
# Which placeholder a failed resolution reports

Resolution looks placeholders up in a fixed order (`Template.lookups`): every
placeholder of the path, left to right; then, key by key and value by value, those of
each query value and of each present header value; then every placeholder of the body
template. A query or header value that is one placeholder looks that one up; any other
value text looks its placeholders up left to right and stops after the first that
renders to nothing, since that drops the value (`valueLookups`).

A looked-up placeholder is missing when its name is not bound, or, in the path, when
its value renders to nothing (`Lookup.missing`). Resolution fails exactly when a
looked-up placeholder is missing, and then with `missingVariable` of the first one's
name. So an unbound placeholder after one that renders to nothing in the same query or
header value is never reported, while every placeholder of the body is looked up.

The proof runs through `failureOf`: each expansion fails as the first missing
placeholder among those it looks up, and resolution chains the expansions.
-/

namespace HttpBlueprint

open Segment

/-- A placeholder that resolution looks up, and whether it stands in the path. -/
structure Lookup where
  name : String
  inPath : Bool

namespace Lookup

/-- Whether a looked-up placeholder is missing: its name is not bound, or it stands in
the path and its value renders to nothing. -/
def missing (vars : Variables) (l : Lookup) : Bool :=
  (vars.get? l.name).isNone || (l.inPath && rendersNothing vars l.name)

/-- The failure a looked-up placeholder causes, if it is missing. -/
def fault (vars : Variables) (l : Lookup) : Option Error :=
  if l.missing vars then some (.missingVariable l.name) else none

/-- The first failure among looked-up placeholders is that of the first missing one. -/
theorem findSome?_fault (vars : Variables) :
    ∀ ls : List Lookup, ls.findSome? (fault vars) =
      (ls.find? (missing vars)).map fun l => .missingVariable l.name
  | [] => rfl
  | l :: rest => by
    by_cases h : l.missing vars
    · simp [fault, h]
    · simp [fault, h, findSome?_fault vars rest]

end Lookup

/-- The names of a list up to and including the first that `stop` holds of. -/
def holesThrough (stop : String → Bool) : List String → List String
  | [] => []
  | n :: rest => n :: if stop n then [] else holesThrough stop rest

theorem holesThrough_false : ∀ names : List String, holesThrough (fun _ => false) names = names
  | [] => rfl
  | n :: rest => by simp [holesThrough, holesThrough_false rest]

/-- The placeholders a query or header value looks up: its one placeholder, or its
placeholders up to and including the first that renders to nothing. -/
def valueLookups (vars : Variables) (s : String) : List String :=
  match singleHole? s with
  | some n => [n]
  | none => holesThrough (rendersNothing vars) (holeNames (scan s))

/-- The placeholders resolution looks up, in order: the path's, each query value's,
each present header value's, and the body template's. -/
def Template.lookups (t : Template) (vars : Variables) : List Lookup :=
  (holeNames (scan t.path)).map (fun n => ⟨n, true⟩) ++
    ((t.queries.entries.flatMap fun e => e.2.flatMap (valueLookups vars)) ++
      (t.headers.entries.flatMap fun e => (e.2.filterMap id).flatMap (valueLookups vars)) ++
      (t.bodyTemplate.map fun bt => holeNames (scan bt)).getD []).map fun n => ⟨n, false⟩

/-! ## Expanding a text -/

section Expand

variable {lookup : String → Except Error (Option String)} {literal : String → String}

/-- An expansion fails as the first failing look-up among its placeholders up to and
including the first whose look-up gives nothing. -/
theorem failureOf_expandSegments (fault : String → Option Error) (stop : String → Bool)
    (hfault : ∀ n, failureOf (lookup n) = fault n)
    (hstop : ∀ n r, lookup n = .ok r → (r = none ↔ stop n = true)) :
    ∀ segs : List Segment, failureOf (expandSegments lookup literal segs) =
      (holesThrough stop (holeNames segs)).findSome? fault
  | [] => rfl
  | .literal text :: rest => by
    rw [holeNames_literal, expandSegments, failureOf_bind_of_ok fun r _ => by cases r <;> rfl]
    exact failureOf_expandSegments fault stop hfault hstop rest
  | .hole body :: rest => by
    rw [holeNames_hole, holesThrough, expandSegments]
    cases h : lookup (holeName (String.ofList body)) with
    | error e =>
      -- the look-up fails, before anything after it
      have he : fault (holeName (String.ofList body)) = some e := by rw [← hfault, h]; rfl
      rw [error_bind, List.findSome?_cons, he]
      rfl
    | ok r =>
      have hnone : fault (holeName (String.ofList body)) = none := by rw [← hfault, h]; rfl
      have hr := hstop _ r h
      rw [ok_bind, List.findSome?_cons, hnone]
      cases r with
      | none =>
        -- the look-up gives nothing: the expansion stops here
        simp [hr.1 rfl]
      | some text =>
        have hgo : stop (holeName (String.ofList body)) = false := by simpa using hr
        dsimp only
        rw [failureOf_bind_of_ok fun r _ => by cases r <;> rfl,
          failureOf_expandSegments fault stop hfault hstop rest]
        simp [hgo]

/-- An expansion whose look-ups never give nothing fails as the first failing look-up
among all its placeholders. -/
theorem failureOf_expandSegments_of_isSome (fault : String → Option Error)
    (hfault : ∀ n, failureOf (lookup n) = fault n)
    (hsome : ∀ n r, lookup n = .ok r → r.isSome = true) (segs : List Segment) :
    failureOf (expandSegments lookup literal segs) = (holeNames segs).findSome? fault := by
  have hstop : ∀ n r, lookup n = .ok r → (r = none ↔ (fun _ => false) n = true) := by
    intro n r h
    cases r with
    | none => cases hsome n none h
    | some text => simp
  rw [failureOf_expandSegments fault (fun _ => false) hfault hstop, holesThrough_false]

end Expand

theorem failureOf_lookupVar (vars : Variables) (n : String) :
    failureOf (lookupVar vars n) = Lookup.fault vars ⟨n, false⟩ := by
  unfold lookupVar
  cases h : vars.get? n <;> simp [Lookup.fault, Lookup.missing, h]

/-- A path fails at its first missing placeholder, left to right. -/
theorem failureOf_expandPath (path : String) (vars : Variables) (encoded : List String) :
    failureOf (expandPath path vars encoded) =
      (holeNames (scan path)).findSome? fun n => Lookup.fault vars ⟨n, true⟩ := by
  unfold expandPath expandText
  rw [failureOf_bind_of_ok fun _ _ => rfl,
    failureOf_expandSegments_of_isSome (fun n => Lookup.fault vars ⟨n, true⟩) ?fault ?some]
  case fault =>
    -- a placeholder is missing when unbound or bound to a value that renders to nothing
    intro n
    cases hget : vars.get? n with
    | none => simp [lookupVar, hget, error_bind, Lookup.fault, Lookup.missing]
    | some v =>
      cases hraw : v.render <;>
        simp [lookupVar, hget, hraw, ok_bind, Lookup.fault, Lookup.missing, rendersNothing]
  case some =>
    -- a path look-up fails or gives a text, never nothing
    intro n r h
    simp only [bind_eq_ok, lookupVar_eq_ok] at h
    obtain ⟨v, -, hv⟩ := h
    cases hraw : v.render <;> simp [hraw] at hv
    simp [← hv]

/-- A query or header value text fails at the first missing placeholder it looks up. -/
theorem failureOf_expandValue (s : String) (vars : Variables) (enc : String → String → String) :
    failureOf (expandValue s vars enc) =
      (valueLookups vars s).findSome? fun n => Lookup.fault vars ⟨n, false⟩ := by
  unfold expandValue valueLookups
  cases hsingle : singleHole? s with
  | some n =>
    rw [failureOf_bind_of_ok fun v _ => by cases v <;> rfl, failureOf_lookupVar]
    simp
  | none =>
    unfold expandText
    rw [failureOf_bind_of_ok fun _ _ => rfl,
      failureOf_expandSegments (fun n => Lookup.fault vars ⟨n, false⟩) (rendersNothing vars) ?fault ?stop]
    case fault =>
      intro n
      rw [failureOf_bind_of_ok fun _ _ => rfl, failureOf_lookupVar]
    case stop =>
      -- a look-up gives nothing exactly when the value renders to nothing
      intro n r h
      obtain ⟨v, hv, rfl⟩ := renderLookup_eq_ok.1 h
      simp [rendersNothing, hv]

/-! ## Queries, headers and the body -/

theorem flatMap_filterMap_id {α β : Type} (f : α → List β) :
    ∀ l : List (Option α), (l.filterMap id).flatMap f = l.flatMap fun v => (v.map f).getD []
  | [] => rfl
  | none :: rest => by
    rw [List.filterMap_cons_none (f := id) rfl, flatMap_filterMap_id f rest]
    rfl
  | some a :: rest => by
    rw [List.filterMap_cons_some (f := id) rfl, List.flatMap_cons, flatMap_filterMap_id f rest]
    rfl

theorem failureOf_resolveQuery (vars : Variables) (encoded : List String)
    (acc : Multimap String) (entry : String × List String) :
    failureOf (Template.resolveQuery vars encoded acc entry) =
      (entry.2.flatMap (valueLookups vars)).findSome? fun n => Lookup.fault vars ⟨n, false⟩ := by
  obtain ⟨name, values⟩ := entry
  unfold Template.resolveQuery
  by_cases hempty : values.isEmpty
  · -- a key without values looks nothing up
    simp [List.isEmpty_iff.1 hempty]
  · simp only [hempty, Bool.false_eq_true, if_false]
    rw [failureOf_bind_of_ok fun _ _ => rfl]
    refine failureOf_foldlM _ (valueLookups vars) (fun out v _ => ?_) []
    rw [failureOf_bind_of_ok fun _ _ => rfl, failureOf_expandValue]

theorem failureOf_resolveHeader (vars : Variables) (acc : Multimap (Option String))
    (entry : String × List (Option String)) :
    failureOf (Template.resolveHeader vars acc entry) =
      ((entry.2.filterMap id).flatMap (valueLookups vars)).findSome? fun n =>
        Lookup.fault vars ⟨n, false⟩ := by
  obtain ⟨name, values⟩ := entry
  unfold Template.resolveHeader
  rw [failureOf_bind_of_ok fun _ _ => rfl, flatMap_filterMap_id]
  refine failureOf_foldlM _ _ (fun out v _ => ?_) []
  -- an absent value looks nothing up
  cases v with
  | none => rfl
  | some text =>
    show failureOf (expandValue text vars _ >>= _) = _
    rw [failureOf_bind_of_ok fun _ _ => rfl, failureOf_expandValue]
    rfl

/-- A body template fails at its first unbound placeholder. -/
theorem failureOf_expandBody (bt : String) (vars : Variables) :
    failureOf (expandBody bt vars) =
      (holeNames (scan bt)).findSome? fun n => Lookup.fault vars ⟨n, false⟩ := by
  unfold expandBody expandText
  rw [failureOf_bind_of_ok fun _ _ => rfl,
    failureOf_expandSegments_of_isSome (fun n => Lookup.fault vars ⟨n, false⟩) ?fault ?some]
  case fault =>
    intro n
    rw [failureOf_bind_of_ok fun _ _ => rfl, failureOf_lookupVar]
  case some =>
    -- a body look-up gives a text, the empty one for a value that renders to nothing
    intro n r h
    simp only [bind_eq_ok, pure_eq_ok] at h
    obtain ⟨v, -, rfl⟩ := h
    rfl

/-! ## The law -/

/-- Resolution fails exactly as the first missing placeholder it looks up. -/
theorem failureOf_resolve (t : Template) (vars : Variables) :
    failureOf (t.resolve vars) = (t.lookups vars).findSome? (Lookup.fault vars) := by
  have hpath : failureOf (expandPath t.path vars t.alreadyEncoded) =
      ((holeNames (scan t.path)).map fun n => (⟨n, true⟩ : Lookup)).findSome?
        (Lookup.fault vars) := by
    rw [List.findSome?_map]
    exact failureOf_expandPath t.path vars t.alreadyEncoded
  have hqueries : ∀ acc, failureOf (t.queries.entries.foldlM
      (Template.resolveQuery vars t.alreadyEncoded) acc) =
        ((t.queries.entries.flatMap fun e => e.2.flatMap (valueLookups vars)).map
          fun n => (⟨n, false⟩ : Lookup)).findSome? (Lookup.fault vars) := by
    intro acc
    rw [List.findSome?_map]
    exact failureOf_foldlM _ _ (fun acc e _ => failureOf_resolveQuery vars _ acc e) acc
  have hheaders : ∀ acc, failureOf (t.headers.entries.foldlM (Template.resolveHeader vars) acc) =
      ((t.headers.entries.flatMap fun e => (e.2.filterMap id).flatMap (valueLookups vars)).map
        fun n => (⟨n, false⟩ : Lookup)).findSome? (Lookup.fault vars) := by
    intro acc
    rw [List.findSome?_map]
    exact failureOf_foldlM _ _ (fun acc e _ => failureOf_resolveHeader vars acc e) acc
  unfold Template.resolve Template.lookups
  rw [List.map_append, List.map_append, List.append_assoc]
  refine failureOf_bind hpath fun _ _ => failureOf_bind (hqueries _) fun _ _ =>
    failureOf_bind (hheaders _) fun _ _ => ?_
  -- the body template is expanded last, when there is one
  cases t.bodyTemplate with
  | none => rfl
  | some bt =>
    show failureOf ((some <$> expandBody bt vars) >>= _) = _
    rw [failureOf_bind_of_ok fun _ _ => rfl, failureOf_map, failureOf_expandBody, Option.map_some,
      Option.getD_some, List.findSome?_map]
    rfl

/-- The resolution error law. Resolution fails exactly when a placeholder it looks up is
missing: unbound, or, in the path, bound to a value that renders to nothing. It then
fails with `missingVariable` of the name of the first such placeholder, in the order in
which `Template.lookups` lists them. -/
theorem resolve_missing_law (t : Template) (vars : Variables) :
    ((∃ e, t.resolve vars = .error e) ↔ ∃ l ∈ t.lookups vars, l.missing vars = true) ∧
    ∀ e, t.resolve vars = .error e ↔
      ∃ l, (t.lookups vars).find? (Lookup.missing vars) = some l ∧ e = .missingVariable l.name := by
  have hfail : ∀ e, t.resolve vars = .error e ↔
      ∃ l, (t.lookups vars).find? (Lookup.missing vars) = some l ∧
        e = .missingVariable l.name := by
    intro e
    rw [← failureOf_eq_some, failureOf_resolve, Lookup.findSome?_fault, Option.map_eq_some_iff]
    exact exists_congr fun l => and_congr_right fun _ => eq_comm
  refine ⟨⟨?_, ?_⟩, hfail⟩
  · rintro ⟨e, he⟩
    obtain ⟨l, hl, -⟩ := (hfail e).1 he
    exact ⟨l, List.mem_of_find?_eq_some hl, List.find?_some hl⟩
  · rintro ⟨l, hmem, hmissing⟩
    -- a placeholder is missing, so there is a first missing one
    obtain ⟨l', hl'⟩ := Option.isSome_iff_exists.1 (List.find?_isSome.2 ⟨l, hmem, hmissing⟩)
    exact ⟨_, (hfail _).2 ⟨l', hl', rfl⟩⟩

end HttpBlueprint
