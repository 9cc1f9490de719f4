import HttpBlueprint.Proofs.Expansion
/-!
# Rendering a value, against writing it

`Value.render` gives a placeholder its text and `Value.display` writes a value inside
other text. They are two recursions over nested lists that part ways on nulls and empty
lists: rendering drops the items of a list that render to nothing and gives nothing for a
list left with none, where display writes `null` and the empty text. A value other than
null whose lists are filled (`Value.listsFilled`: every list reachable through list items
is non-empty and holds no null) renders as it displays (`render_of_listsFilled`); maps,
records and cookies render by display whatever they hold.

A query or header value that is a single placeholder is expanded by a short path that
reads the name off the text itself and gives one value per rendered item of a list. The
general scanner finds the same name in the text's one hole (`expandText_of_singleHole?`)
and gives the items of a list joined by `,` as one value, so the two agree except on a
list with two or more items that render (`singleHole_fastPath`).
-/

namespace HttpBlueprint

namespace Value

mutual

/-- Whether every list reachable from a value through list items is non-empty and holds
no null. -/
def listsFilled : Value → Bool
  | .list items => !items.isEmpty && itemsFilled items
  | _ => true

/-- Whether every item of a list is other than null and has its lists filled. -/
def itemsFilled : List Value → Bool
  | [] => true
  | v :: rest => !v.isNull && v.listsFilled && itemsFilled rest

end

/-- A list renders to its rendered items joined by `,`, or to nothing when no item
renders. -/
theorem render_list (items : List Value) :
    (Value.list items).render =
      if items.filterMap render = [] then none
      else some (",".intercalate (items.filterMap render)) := by
  rw [render, renderItems_eq_filterMap]
  split <;> simp_all

/-- A list displays as its items' texts joined by `,`. -/
theorem displayItems_eq_intercalate : ∀ items : List Value,
    displayItems items = ",".intercalate (items.map display)
  | [] => rfl
  | [v] => by simp [displayItems]
  | v :: w :: rest => by
    rw [List.map_cons, List.map_cons, String.intercalate_cons_cons, ← List.map_cons,
      ← displayItems_eq_intercalate (w :: rest)]
    simp only [displayItems]

mutual

/-- A value other than null whose lists are filled renders as it displays. -/
theorem render_of_listsFilled : ∀ {v : Value}, v.listsFilled = true → v ≠ .null →
    v.render = some v.display
  | .null, _, hnull => absurd rfl hnull
  | .bool _, _, _ | .int _, _, _ | .float _, _, _ | .str _, _, _ | .map _, _, _
  | .record _ _, _, _ | .cookie _, _, _ => rfl
  | .list items, h, _ => by
    simp only [listsFilled, Bool.and_eq_true, Bool.not_eq_true', List.isEmpty_eq_false_iff] at h
    obtain ⟨hne, hitems⟩ := h
    -- every item renders as it displays, so the rendering drops none of them
    have hmap : items.filterMap render = items.map display := by
      rw [← renderItems_eq_filterMap, renderItems_of_itemsFilled hitems]
    rw [render_list, hmap, if_neg (List.map_eq_nil_iff.not.2 hne), display,
      displayItems_eq_intercalate]

/-- The items of a filled list each render as they display. -/
theorem renderItems_of_itemsFilled : ∀ {items : List Value}, itemsFilled items = true →
    renderItems items = items.map display
  | [], _ => rfl
  | v :: rest, h => by
    simp only [itemsFilled, Bool.and_eq_true, Bool.not_eq_true'] at h
    obtain ⟨⟨hnull, hv⟩, hrest⟩ := h
    have hne : v ≠ .null := by
      rintro rfl
      cases hnull
    simp only [renderItems, render_of_listsFilled hv hne, renderItems_of_itemsFilled hrest,
      List.map_cons]

end

/-- A value renders to nothing exactly when it is null or a list none of whose items
renders. -/
theorem render_eq_none_iff (v : Value) :
    v.render = none ↔ v = .null ∨ ∃ items, v = .list items ∧ ∀ x ∈ items, x.render = none := by
  cases v with
  | list items =>
    rw [render_list]
    simp [List.filterMap_eq_nil_iff]
  | _ => simp [render]

end Value

open Value

/-- **Rendering against display.** A value renders to nothing exactly when it is null or a
list none of whose items renders; a list with an item that renders gives its rendered
items joined by `,`; a value other than null whose reachable lists are all non-empty and
hold no null renders as it displays; and maps, records and cookies render as they
display, nulls inside them included. -/
theorem render_against_display :
    (∀ v : Value, v.render = none ↔
      v = .null ∨ ∃ items, v = .list items ∧ ∀ x ∈ items, x.render = none) ∧
    (∀ items : List Value, items.filterMap render ≠ [] →
      (Value.list items).render = some (",".intercalate (items.filterMap render))) ∧
    (∀ v : Value, v ≠ .null → v.listsFilled = true → v.render = some v.display) ∧
    (∀ entries, (Value.map entries).render = some (Value.map entries).display) ∧
    (∀ typeName fields,
      (Value.record typeName fields).render = some (Value.record typeName fields).display) ∧
    ∀ c, (Value.cookie c).render = some (Value.cookie c).display :=
  ⟨render_eq_none_iff, fun items h => by rw [render_list, if_neg h],
    fun _ hnull h => render_of_listsFilled h hnull, fun _ => rfl, fun _ _ => rfl, fun _ => rfl⟩

/-- A nested list of texts and an integer renders as it displays. -/
theorem render_against_display_nested :
    Value.list [.int 1, .list [.str "a", .str "b"]] ≠ .null ∧
      (Value.list [.int 1, .list [.str "a", .str "b"]]).listsFilled = true ∧
      (Value.list [.int 1, .list [.str "a", .str "b"]]).render =
        some (Value.list [.int 1, .list [.str "a", .str "b"]]).display :=
  ⟨nofun, rfl, render_against_display.2.2.1 _ nofun rfl⟩

/-- Null has no list in it, so its lists are filled, yet it renders to nothing where
display writes `null`. -/
theorem render_null_ne_display :
    Value.null.listsFilled = true ∧ Value.null.render ≠ some Value.null.display := by
  decide

/-! ## A value that is a single placeholder -/

/-- The values a query or header value text expands to through the general scanner
alone: its filling through renderings written by `enc`, as one value, or none when a
placeholder renders to nothing. -/
def scannedValues (s : String) (vars : Variables) (enc : String → String → String) :
    Except Error (List String) := do
  let r ← expandText s fun name => do
    let v ← lookupVar vars name
    pure (v.render.map (enc name))
  pure r.toList

/-- A text that is not a single placeholder goes through the general scanner alone. -/
theorem expandValue_of_singleHole?_eq_none {s : String} (h : singleHole? s = none)
    (vars : Variables) (enc : String → String → String) :
    expandValue s vars enc = scannedValues s vars enc := by
  rw [expandValue, h]
  rfl

section Single

variable {s n : String} {vars : Variables} {enc : String → String → String}

/-- A text that is one placeholder expands to what the look-up gives for its name: the
literals around the hole are empty. -/
theorem expandText_of_singleHole? (h : singleHole? s = some n)
    (lookup : String → Except Error (Option String)) : expandText s lookup = lookup n := by
  obtain ⟨body, hscan, rfl⟩ := Segment.scan_of_singleHole? h
  rw [expandText, hscan, Segment.expandSegments_literal]
  cases hl : lookup (holeName (String.ofList body)) with
  | ok found =>
    cases found with
    | some x =>
      rw [Segment.expandSegments_hole_of_text hl, Segment.expandSegments_literal]
      simp [expandSegments]
    | none =>
      rw [Segment.expandSegments_hole_of_stop (r := .ok none) (by rw [hl]; rfl)]
      rfl
  | error e =>
    rw [Segment.expandSegments_hole_of_stop (r := .error e) (by rw [hl]; rfl)]
    rfl

/-- Through the general scanner, a single placeholder bound to a value gives the value's
rendering through `enc`, if any. -/
theorem scannedValues_single (h : singleHole? s = some n) {v : Value}
    (hv : vars.get? n = some v) : scannedValues s vars enc = .ok (v.render.map (enc n)).toList := by
  simp [scannedValues, expandText_of_singleHole? h, lookupVar, hv]

/-- An unbound name fails both paths with the same missing variable. -/
theorem scannedValues_single_unbound (h : singleHole? s = some n) (hv : vars.get? n = none) :
    scannedValues s vars enc = .error (.missingVariable n) := by
  simp [scannedValues, expandText_of_singleHole? h, lookupVar, hv]

theorem expandValue_single_unbound (h : singleHole? s = some n) (hv : vars.get? n = none) :
    expandValue s vars enc = .error (.missingVariable n) := by
  simp [expandValue, h, lookupVar, hv, error_bind]

/-- The short path gives one value per rendered item of a list. -/
theorem expandValue_single_list (h : singleHole? s = some n) {items : List Value}
    (hv : vars.get? n = some (.list items)) :
    expandValue s vars enc = .ok ((items.filterMap render).map (enc n)) := by
  simp [expandValue, h, lookupVar, hv, ok_bind, renderItems_eq_filterMap]

/-- On a value other than a list, the short path gives its rendering, if any. -/
theorem expandValue_single_of_ne_list (h : singleHole? s = some n) {v : Value}
    (hv : vars.get? n = some v) (hlist : ∀ items, v ≠ .list items) :
    expandValue s vars enc = .ok (v.render.map (enc n)).toList := by
  cases v with
  | list items => exact absurd rfl (hlist items)
  | _ => simp [expandValue, h, lookupVar, hv, ok_bind]

end Single

/-- **The single-placeholder path.** A query or header value text that is one placeholder
has that placeholder as the one hole the general scanner finds, with the same name. Its
short expansion agrees with the general one when the name is unbound (both fail with the
same missing variable) and when the bound value is not a list or is a list with at most
one item that renders; a list with two or more items that render gives one value per item,
where the general path gives them joined by `,` as one value. -/
theorem singleHole_fastPath {s n : String} (h : singleHole? s = some n) (vars : Variables)
    (enc : String → String → String) :
    (∃ body, Segment.scan s = [.literal [], .hole body, .literal []] ∧
      holeName (String.ofList body) = n) ∧
    (vars.get? n = none → expandValue s vars enc = .error (.missingVariable n) ∧
      scannedValues s vars enc = .error (.missingVariable n)) ∧
    (∀ v, vars.get? n = some v →
      (∀ items, v = .list items → (items.filterMap render).length ≤ 1) →
      expandValue s vars enc = scannedValues s vars enc) ∧
    ∀ items, vars.get? n = some (.list items) → 2 ≤ (items.filterMap render).length →
      expandValue s vars enc = .ok ((items.filterMap render).map (enc n)) ∧
      scannedValues s vars enc = .ok [enc n (",".intercalate (items.filterMap render))] := by
  refine ⟨Segment.scan_of_singleHole? h,
    fun hv => ⟨expandValue_single_unbound h hv, scannedValues_single_unbound h hv⟩,
    fun v hv hshort => ?_, fun items hv hmany => ⟨expandValue_single_list h hv, ?_⟩⟩
  · rw [scannedValues_single h hv]
    cases v with
    | list items =>
      rw [expandValue_single_list h hv, render_list]
      -- at most one item renders: none, or one whose rendering is the join
      have hle := hshort items rfl
      cases hr : items.filterMap render with
      | nil => rfl
      | cons x rest =>
        cases rest with
        | nil => simp
        | cons y rest =>
          rw [hr] at hle
          simp at hle
    | _ => exact expandValue_single_of_ne_list h hv nofun
  · have hne : items.filterMap render ≠ [] := by
      intro hnil
      simp [hnil] at hmany
    rw [scannedValues_single h hv, render_list, if_neg hne]
    rfl

/-- The text `{tags}` bound to two texts and a null: the short path gives the two texts as
two values, the general path one joined value. -/
theorem singleHole_fastPath_tags :
    singleHole? "{tags}" = some "tags" ∧
      expandValue "{tags}" ⟨[("tags", .list [.str "a", .null, .str "b"])]⟩ (fun _ raw => raw) =
        .ok ["a", "b"] ∧
      scannedValues "{tags}" ⟨[("tags", .list [.str "a", .null, .str "b"])]⟩ (fun _ raw => raw) =
        .ok ["a,b"] := by
  have hs : singleHole? "{tags}" = some "tags" := by decide
  obtain ⟨-, -, -, hmany⟩ :=
    singleHole_fastPath hs ⟨[("tags", .list [.str "a", .null, .str "b"])]⟩ (fun _ raw => raw)
  obtain ⟨hfast, hscan⟩ := hmany [.str "a", .null, .str "b"] rfl (by decide)
  exact ⟨hs, hfast, hscan⟩

end HttpBlueprint
