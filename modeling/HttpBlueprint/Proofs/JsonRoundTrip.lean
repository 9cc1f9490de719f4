import HttpBlueprint.Proofs.Basic
import HttpBlueprint.Value.Document
/-!
# Values and JSON documents, there and back

A document as a JSON library holds it has its objects sorted by key, each key once.
Converting such a document to a value (`Value.ofJsonDoc`) sorts nothing and keeps every
integer of the signed 64-bit range an integer, so the value is written as the same JSON
text as the document (`toJson_ofJsonDoc`). The values that documents convert to are
described by `Value.JsonShaped`: no record or cookie, signed 64-bit integers, finite
floats, and maps sorted by key with each key once. Such a value serializes to a document
(`Value.toJsonDoc`) that converts back to the value itself (`ofJsonDoc_toJsonDoc`).

Both rest on one fact about sorted maps: inserting the entries of a list already sorted
by key, in order, gives the list back (`sortByKey_of_sorted`).
-/

namespace HttpBlueprint

/-! ## Documents held sorted, and the values they convert to -/

/-- A document as a JSON library holds it, read with no integer above the signed 64-bit
range: every object is a map sorted by key, each key once, and every integer is a signed
64-bit one. -/
inductive JsonDoc.SignedSorted : JsonDoc → Prop
  | null : SignedSorted .null
  | bool (b : Bool) : SignedSorted (.bool b)
  | int {i : Int} (lo : Value.int64Min ≤ i) (hi : i ≤ Value.int64Max) : SignedSorted (.int i)
  | float (x : Float) : SignedSorted (.float x)
  | str (s : String) : SignedSorted (.str s)
  | arr {items : List JsonDoc} (h : ∀ d ∈ items, SignedSorted d) : SignedSorted (.arr items)
  | obj {members : List (String × JsonDoc)} (sorted : members.Pairwise fun a b => a.1 < b.1)
      (h : ∀ m ∈ members, SignedSorted m.2) : SignedSorted (.obj members)

/-- The values a JSON document converts to: no record or cookie, every integer a signed
64-bit one, every float finite, and every map sorted by key with each key once. -/
inductive Value.JsonShaped : Value → Prop
  | null : JsonShaped .null
  | bool (b : Bool) : JsonShaped (.bool b)
  | int {i : Int} (lo : int64Min ≤ i) (hi : i ≤ int64Max) : JsonShaped (.int i)
  | float {x : Float} (finite : (Decimal.Binary64.ofFloat x).isFinite = true) :
      JsonShaped (.float x)
  | str (s : String) : JsonShaped (.str s)
  | list {items : List Value} (h : ∀ v ∈ items, JsonShaped v) : JsonShaped (.list items)
  | map {entries : List (String × Value)} (sorted : entries.Pairwise fun a b => a.1 < b.1)
      (h : ∀ e ∈ entries, JsonShaped e.2) : JsonShaped (.map entries)

/-! ## Sorted maps -/

section Sorted

variable {α : Type}

/-- A key above every key of a list goes last. -/
theorem insertSorted_of_lt {k : String} {v : α} :
    ∀ {l : List (String × α)}, (∀ e ∈ l, e.1 < k) → insertSorted k v l = l ++ [(k, v)]
  | [], _ => rfl
  | (k', v') :: rest, h => by
    have hlt : k' < k := h (k', v') List.mem_cons_self
    rw [insertSorted, if_neg (ne_of_gt hlt), if_neg (lt_asymm hlt),
      insertSorted_of_lt fun e he => h e (List.mem_cons_of_mem _ he), List.cons_append]

/-- Inserting, in order, the entries of a list sorted by key gives the list back. -/
theorem sortByKey_of_sorted {l : List (String × α)} (h : l.Pairwise fun a b => a.1 < b.1) :
    sortByKey l = l := by
  induction l using List.reverseRecOn with
  | nil => rfl
  | append_singleton l e ih =>
    obtain ⟨hl, -, hlast⟩ := List.pairwise_append.1 h
    obtain ⟨k, v⟩ := e
    -- the last entry's key is above every earlier one, so it is inserted last
    have hlt : ∀ a ∈ l, a.1 < k := fun a ha => hlast a ha (k, v) List.mem_cons_self
    rw [sortByKey, List.foldl_append, ← sortByKey, ih hl, List.foldl_cons, List.foldl_nil]
    exact insertSorted_of_lt hlt

/-- Changing the values of a list keeps its keys sorted. -/
theorem sorted_map_snd {β : Type} {l : List (String × α)} (f : α → β)
    (h : l.Pairwise fun a b => a.1 < b.1) :
    (l.map fun e => (e.1, f e.2)).Pairwise fun a b => a.1 < b.1 :=
  List.Pairwise.map _ (fun _ _ hab => hab) h

end Sorted

/-! ## Lists of items and members -/

namespace Value

theorem ofJsonDocs_eq_map : ∀ ds : List JsonDoc, ofJsonDocs ds = ds.map ofJsonDoc
  | [] => rfl
  | d :: rest => by rw [ofJsonDocs, ofJsonDocs_eq_map rest, List.map_cons]

theorem ofJsonEntries_eq_map :
    ∀ ms : List (String × JsonDoc), ofJsonEntries ms = ms.map fun m => (m.1, ofJsonDoc m.2)
  | [] => rfl
  | (k, d) :: rest => by rw [ofJsonEntries, ofJsonEntries_eq_map rest, List.map_cons]

theorem toJsonDocs_eq_map : ∀ vs : List Value, toJsonDocs vs = vs.map toJsonDoc
  | [] => rfl
  | v :: rest => by rw [toJsonDocs, toJsonDocs_eq_map rest, List.map_cons]

theorem toJsonMembers_eq_map :
    ∀ es : List (String × Value), toJsonMembers es = es.map fun e => (e.1, toJsonDoc e.2)
  | [] => rfl
  | (k, v) :: rest => by rw [toJsonMembers, toJsonMembers_eq_map rest, List.map_cons]

/-- Items written as their documents are written are joined the same way. -/
theorem itemsJson_map_ofJsonDoc :
    ∀ {ds : List JsonDoc}, (∀ d ∈ ds, (ofJsonDoc d).toJson = d.toJson) →
      itemsJson (ds.map ofJsonDoc) = JsonDoc.itemsJson ds
  | [], _ => rfl
  | [d], h => by
    rw [List.map_singleton, itemsJson, JsonDoc.itemsJson, h d List.mem_cons_self]
  | d :: d' :: rest, h => by
    have ih := @itemsJson_map_ofJsonDoc (d' :: rest) fun e he => h e (List.mem_cons_of_mem d he)
    rw [List.map_cons] at ih
    simp only [List.map_cons, itemsJson, JsonDoc.itemsJson, h d List.mem_cons_self, ih]

/-- Members whose documents are written as their values are joined the same way. -/
theorem entriesJson_map_ofJsonDoc :
    ∀ {ms : List (String × JsonDoc)}, (∀ m ∈ ms, (ofJsonDoc m.2).toJson = m.2.toJson) →
      entriesJson (ms.map fun m => (m.1, ofJsonDoc m.2)) = JsonDoc.membersJson ms
  | [], _ => rfl
  | [(k, d)], h => by
    rw [List.map_singleton, entriesJson, JsonDoc.membersJson, h (k, d) List.mem_cons_self]
  | (k, d) :: m :: rest, h => by
    have ih := @entriesJson_map_ofJsonDoc (m :: rest) fun e he => h e (List.mem_cons_of_mem _ he)
    rw [List.map_cons] at ih
    simp only [List.map_cons, entriesJson, JsonDoc.membersJson, h (k, d) List.mem_cons_self, ih]

end Value

open Value

/-! ## From a document and back -/

/-- A document held sorted, with every integer signed, is written as the value it
converts to is written. -/
theorem toJson_ofJsonDoc {j : JsonDoc} (hj : j.SignedSorted) : (ofJsonDoc j).toJson = j.toJson := by
  induction hj with
  | null => rfl
  | bool b => rfl
  | int lo hi => rw [ofJsonDoc, if_pos ⟨lo, hi⟩]; rfl
  | float x => rfl
  | str s => rfl
  | @arr items _ ih =>
    rw [ofJsonDoc, ofJsonDocs_eq_map, toJson, JsonDoc.toJson, itemsJson_map_ofJsonDoc ih]
  | @obj members sorted _ ih =>
    -- an object's members are already sorted, so the map keeps their order
    rw [ofJsonDoc, ofJsonEntries_eq_map, sortByKey_of_sorted (sorted_map_snd ofJsonDoc sorted),
      toJson, JsonDoc.toJson, entriesJson_map_ofJsonDoc ih]

/-- A value that a document converts to converts back to itself from the document it
serializes to. -/
theorem ofJsonDoc_toJsonDoc {v : Value} (hv : v.JsonShaped) : ofJsonDoc v.toJsonDoc = v := by
  induction hv with
  | null => rfl
  | bool b => rfl
  | int lo hi => rw [toJsonDoc, ofJsonDoc, if_pos ⟨lo, hi⟩]
  | float finite => rw [toJsonDoc, if_pos finite, ofJsonDoc]
  | str s => rfl
  | @list items _ ih =>
    rw [toJsonDoc, ofJsonDoc, toJsonDocs_eq_map, ofJsonDocs_eq_map, List.map_map]
    exact congrArg Value.list ((List.map_congr_left ih).trans (List.map_id items))
  | @map entries sorted _ ih =>
    -- both directions sort a list that is sorted already
    have hback : (entries.map fun e => (e.1, ofJsonDoc (toJsonDoc e.2))) = entries :=
      (List.map_congr_left fun e he => by rw [ih e he]; rfl).trans (List.map_id entries)
    rw [toJsonDoc, toJsonMembers_eq_map, sortByKey_of_sorted (sorted_map_snd toJsonDoc sorted),
      ofJsonDoc, ofJsonEntries_eq_map, List.map_map]
    simp only [Function.comp_def]
    rw [hback, sortByKey_of_sorted sorted]

/-- **JSON round trip.** A document held sorted by key with no integer above the signed
64-bit range is written as the same JSON text as the value it converts to; and a value
that a document converts to (no record or cookie, every float finite, every map sorted by
key with each key once) converts back to itself from the document it serializes to. -/
theorem json_roundTrip :
    (∀ j : JsonDoc, j.SignedSorted → (ofJsonDoc j).toJson = j.toJson) ∧
      ∀ v : Value, v.JsonShaped → ofJsonDoc v.toJsonDoc = v :=
  ⟨fun _ hj => toJson_ofJsonDoc hj, fun _ hv => ofJsonDoc_toJsonDoc hv⟩

/-- An object with a nested array, and a map with a nested list and a negative integer. -/
theorem json_roundTrip_nested :
    (JsonDoc.obj [("a", .int 1), ("b", .arr [.null, .bool true])]).SignedSorted ∧
      (ofJsonDoc (.obj [("a", .int 1), ("b", .arr [.null, .bool true])])).toJson =
        (JsonDoc.obj [("a", .int 1), ("b", .arr [.null, .bool true])]).toJson ∧
      (Value.map [("a", .list [.str "x"]), ("b", .int (-1))]).JsonShaped ∧
      ofJsonDoc (Value.map [("a", .list [.str "x"]), ("b", .int (-1))]).toJsonDoc =
        .map [("a", .list [.str "x"]), ("b", .int (-1))] := by
  have hj : (JsonDoc.obj [("a", .int 1), ("b", .arr [.null, .bool true])]).SignedSorted := by
    refine .obj (by decide) ?_
    simp only [List.mem_cons, List.not_mem_nil, or_false, forall_eq_or_imp, forall_eq]
    refine ⟨.int (by decide) (by decide), .arr ?_⟩
    simp only [List.mem_cons, List.not_mem_nil, or_false, forall_eq_or_imp, forall_eq]
    exact ⟨.null, .bool true⟩
  have hv : (Value.map [("a", .list [.str "x"]), ("b", .int (-1))]).JsonShaped := by
    refine .map (by decide) ?_
    simp only [List.mem_cons, List.not_mem_nil, or_false, forall_eq_or_imp, forall_eq]
    refine ⟨.list ?_, .int (by decide) (by decide)⟩
    simp only [List.mem_cons, List.not_mem_nil, or_false, forall_eq]
    exact .str "x"
  exact ⟨hj, json_roundTrip.1 _ hj, hv, json_roundTrip.2 _ hv⟩

end HttpBlueprint
