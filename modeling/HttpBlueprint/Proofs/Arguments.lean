import HttpBlueprint.Proofs.Basic
/-!
# Aggregate expansion and variable binding

The positions of a call live in two coordinate systems: the raw argument vector,
where the URL argument is read, and the expanded vector, where names, the body and
the maps are read. A record at a position flagged for expansion fills one slot per
field of the position's order; every other argument fills one slot. `slotWidth`
is the number of slots an argument fills and `slotOffset` the first of them, the
widths before it summed.

`expandArguments_aligned` lays the expanded vector out along these offsets, and
shows that binding then gives each name the slot of the position it is bound by:
a record's field by name, whatever order the record lists its fields in, or the
argument itself. Binding visits the named positions in order, so a name listed at
several positions keeps the value of the last one (`lastPositionOf`).
-/

namespace HttpBlueprint

/-! ## Where each argument lands -/

/-- The slots an argument fills in the expanded vector: the values of a record's
fields along the order of a flagged position, else the argument itself. -/
def slotsOf (expand : List (Nat × FieldOrder)) (i : Nat) (v : Value) : List Value :=
  match entryAt? i expand, v with
  | some order, .record t fs => Record.valuesIn ⟨t, fs⟩ order
  | _, _ => [v]

/-- The number of slots an argument fills: the length of its position's field
order when the position is flagged and the argument is a record, else one. -/
def slotWidth (expand : List (Nat × FieldOrder)) (i : Nat) : Value → Nat
  | .record .. => ((entryAt? i expand).map List.length).getD 1
  | _ => 1

/-- The first slot of the argument at a position: the widths of the arguments
before it, summed. -/
def slotOffset (expand : List (Nat × FieldOrder)) (argv : List Value) (i : Nat) : Nat :=
  ((argv.zipIdx.take i).map fun (v, j) => slotWidth expand j v).sum

theorem length_valuesIn (r : Record) (order : FieldOrder) :
    (r.valuesIn order).length = order.length := by
  simp [Record.valuesIn]

/-- The `k`-th value along an order is the first field of the `k`-th name, or null. -/
theorem getElem?_valuesIn (r : Record) (order : FieldOrder) (k : Nat) :
    (r.valuesIn order)[k]? = order[k]?.map fun name => (r.get? name).getD .null := by
  simp [Record.valuesIn]

theorem length_slotsOf (expand : List (Nat × FieldOrder)) (i : Nat) (v : Value) :
    (slotsOf expand i v).length = slotWidth expand i v := by
  unfold slotsOf slotWidth
  cases v <;> cases entryAt? i expand <;> simp [length_valuesIn]

theorem slotsOf_record {expand : List (Nat × FieldOrder)} {i : Nat} {order : FieldOrder}
    (h : entryAt? i expand = some order) (tn : String) (fs : List (String × Value)) :
    slotsOf expand i (.record tn fs) = Record.valuesIn ⟨tn, fs⟩ order := by
  simp [slotsOf, h]

theorem slotsOf_of_not_record {expand : List (Nat × FieldOrder)} {i : Nat} {v : Value}
    (h : ∀ order, entryAt? i expand = some order → ∀ tn fs, v ≠ .record tn fs) :
    slotsOf expand i v = [v] := by
  unfold slotsOf
  split
  · next _ _ order tn fs hord => exact absurd rfl (h order hord tn fs)
  · rfl

/-- Expansion replaces each argument by its slots. -/
theorem expandArguments_eq_flatMap (argv : List Value) (expand : List (Nat × FieldOrder)) :
    expandArguments argv expand = argv.zipIdx.flatMap fun (v, i) => slotsOf expand i v := by
  unfold expandArguments
  split
  · rename_i hempty
    -- with nothing flagged every argument fills one slot of its own
    have hone : ∀ i v, slotsOf expand i v = [v] := fun i v => by
      simp [slotsOf, entryAt?_eq_none_of_isEmpty hempty]
    simp only [hone]
    rw [← List.map_eq_flatMap, List.zipIdx_map_fst]
  · rfl

theorem length_expandArguments (argv : List Value) (expand : List (Nat × FieldOrder)) :
    (expandArguments argv expand).length =
      (argv.zipIdx.map fun (v, i) => slotWidth expand i v).sum := by
  rw [expandArguments_eq_flatMap, List.length_flatMap]
  simp only [length_slotsOf]

/-- The indexed arguments split around position `i`. -/
theorem zipIdx_eq_take_cons_drop (argv : List Value) {i : Nat} (hi : i < argv.length) :
    argv.zipIdx = argv.zipIdx.take i ++ (argv[i], i) :: argv.zipIdx.drop (i + 1) := by
  have hz : i < argv.zipIdx.length := by simpa using hi
  conv_lhs => rw [← List.take_append_drop i argv.zipIdx]
  rw [List.drop_eq_getElem_cons hz, List.getElem_zipIdx]
  simp

/-- The slots from an argument's offset, as many as its width, are its slots. -/
theorem expandArguments_extract (argv : List Value) (expand : List (Nat × FieldOrder))
    {i : Nat} (hi : i < argv.length) :
    (expandArguments argv expand).extract (slotOffset expand argv i)
      (slotOffset expand argv i + slotWidth expand i argv[i]) = slotsOf expand i argv[i] := by
  have hbefore : ((argv.zipIdx.take i).flatMap fun (v, j) => slotsOf expand j v).length =
      slotOffset expand argv i := by
    simp only [List.length_flatMap, length_slotsOf, slotOffset]
  rw [expandArguments_eq_flatMap, zipIdx_eq_take_cons_drop argv hi, List.flatMap_append,
    List.flatMap_cons, ← hbefore, ← length_slotsOf]
  -- the slots before `i`, then those of `i`: the slice between is exactly the latter
  simp

/-- The `k`-th slot of an argument sits at its offset plus `k`. -/
theorem getElem?_expandArguments (argv : List Value) (expand : List (Nat × FieldOrder))
    {i k : Nat} (hi : i < argv.length) (hk : k < slotWidth expand i argv[i]) :
    (expandArguments argv expand)[slotOffset expand argv i + k]? =
      (slotsOf expand i argv[i])[k]? := by
  have hslots := expandArguments_extract argv expand hi
  rw [List.extract_eq_take_drop] at hslots
  rw [← hslots, List.getElem?_take_of_lt (by omega), List.getElem?_drop]

/-- Without a record at a flagged position, expansion changes nothing. -/
theorem expandArguments_eq_self (argv : List Value) (expand : List (Nat × FieldOrder))
    (h : ∀ i (hi : i < argv.length) order, entryAt? i expand = some order →
      ∀ t fs, argv[i] ≠ .record t fs) :
    expandArguments argv expand = argv := by
  have hone : ∀ x ∈ argv.zipIdx, slotsOf expand x.2 x.1 = [x.1] := by
    rintro ⟨v, i⟩ hx
    have hget : argv[i]? = some v := List.mem_zipIdx_iff_getElem?.1 hx
    obtain ⟨hi, rfl⟩ := List.getElem?_eq_some_iff.1 hget
    exact slotsOf_of_not_record (h i hi)
  rw [expandArguments_eq_flatMap, List.flatMap_congr hone, ← List.map_eq_flatMap,
    List.zipIdx_map_fst]

/-! ## Binding -/

/-- The position whose value a name ends up bound to: the last one listing it. -/
def lastPositionOf (n : String) : List (Nat × List String) → Option Nat
  | [] => none
  | (p, ns) :: rest => (lastPositionOf n rest).or (if n ∈ ns then some p else none)

/-- A value through the expander of a position, if it has one. -/
def Expander.applyAt (expanders : List (Nat × Expander)) (p : Nat) (v : Value) :
    Except Error Value :=
  match entryAt? p expanders with
  | some e => e.apply v
  | none => pure v

/-- Binding every name of a list to one value. -/
theorem get?_foldl_insert (ns : List String) (v : Value) (vars : Variables) (key : String) :
    (ns.foldl (fun vars n => vars.insert n v) vars).get? key =
      if key ∈ ns then some v else vars.get? key := by
  induction ns generalizing vars with
  | nil => simp
  | cons n rest ih =>
    simp only [List.foldl_cons, ih, Variables.get?_insert, List.mem_cons]
    by_cases hk : key ∈ rest
    · simp [hk]
    · by_cases hn : n = key
      · simp [hn]
      · simp [hk, hn, Ne.symm hn]

/-- One step of binding: the argument of the position, through its expander, bound
to each of the position's names. -/
def bindStep (argv : List Value) (expanders : List (Nat × Expander)) (vars : Variables)
    (entry : Nat × List String) : Except Error Variables := do
  let v ← argument argv entry.1
  let v ← Expander.applyAt expanders entry.1 v
  pure (entry.2.foldl (fun vars n => vars.insert n v) vars)

theorem bindVariables_eq_foldlM (argv : List Value) (names : List (Nat × List String))
    (expanders : List (Nat × Expander)) :
    bindVariables argv names expanders = names.foldlM (bindStep argv expanders) {} := by
  unfold bindVariables
  congr 1
  funext vars entry
  obtain ⟨i, ns⟩ := entry
  unfold bindStep Expander.applyAt
  dsimp only
  cases entryAt? i expanders <;> rfl

theorem bindStep_eq_ok {argv : List Value} {expanders : List (Nat × Expander)} {p : Nat}
    {ns : List String} {vars vars' : Variables} :
    bindStep argv expanders vars (p, ns) = .ok vars' ↔
      ∃ v w, argument argv p = .ok v ∧ Expander.applyAt expanders p v = .ok w ∧
        vars' = ns.foldl (fun vars n => vars.insert n w) vars := by
  simp only [bindStep, bind_eq_ok, pure_eq_ok]
  constructor
  · rintro ⟨v, hv, w, hw, rfl⟩
    exact ⟨v, w, hv, hw, rfl⟩
  · rintro ⟨v, w, hv, hw, rfl⟩
    exact ⟨v, hv, w, hw, rfl⟩

/-- What a run of binding steps does to one name: it gets the value of the last
position listing it, or keeps the value it had. -/
theorem get?_of_foldlM_bindStep {argv : List Value} {expanders : List (Nat × Expander)}
    (n : String) :
    ∀ (names : List (Nat × List String)) (vars₀ vars : Variables),
      names.foldlM (bindStep argv expanders) vars₀ = .ok vars →
      (∀ p, lastPositionOf n names = some p →
        ∃ v w, argument argv p = .ok v ∧ Expander.applyAt expanders p v = .ok w ∧
          vars.get? n = some w) ∧
      (lastPositionOf n names = none → vars.get? n = vars₀.get? n)
  | [], vars₀, vars, h => by
    simp only [List.foldlM_nil, pure_eq_ok] at h
    subst h
    simp [lastPositionOf]
  | (p, ns) :: rest, vars₀, vars, h => by
    obtain ⟨vars₁, hstep, hrest⟩ := foldlM_cons_eq_ok.1 h
    obtain ⟨v, w, hv, hw, rfl⟩ := bindStep_eq_ok.1 hstep
    obtain ⟨hlater, hnone⟩ := get?_of_foldlM_bindStep n rest _ vars hrest
    -- a later position listing the name wins; otherwise this step decides
    cases hlast : lastPositionOf n rest with
    | some q =>
      simp only [lastPositionOf, hlast, Option.some_or, Option.some.injEq, reduceCtorEq,
        false_imp_iff, and_true]
      rintro p rfl
      exact hlater q hlast
    | none =>
      have hget := hnone hlast
      rw [get?_foldl_insert] at hget
      by_cases hn : n ∈ ns
      · simp only [lastPositionOf, hlast, hn, if_true, Option.none_or, Option.some.injEq,
          reduceCtorEq, false_imp_iff, and_true]
        rintro q rfl
        exact ⟨v, w, hv, hw, by simpa [hn] using hget⟩
      · simp only [lastPositionOf, hlast, hn, if_false, Option.none_or, reduceCtorEq,
          false_imp_iff, implies_true, true_and, forall_const]
        simpa [hn] using hget

/-- After binding, a name listed at some position holds the value of the last such
position, through that position's expander. -/
theorem bindVariables_get? {argv : List Value} {names : List (Nat × List String)}
    {expanders : List (Nat × Expander)} {vars : Variables}
    (h : bindVariables argv names expanders = .ok vars) {n : String} {p : Nat}
    (hp : lastPositionOf n names = some p) :
    ∃ v w, argv[p]? = some v ∧ Expander.applyAt expanders p v = .ok w ∧ vars.get? n = some w := by
  obtain ⟨v, w, hv, hw, hget⟩ := (get?_of_foldlM_bindStep n names {} vars
    (bindVariables_eq_foldlM argv names expanders ▸ h)).1 p hp
  exact ⟨v, w, argument_eq_ok.1 hv, hw, hget⟩

/-- The template a factory starts a call from: the blueprint aimed at the factory's
target, then at the URL argument when the method has one. -/
def Factory.seed (f : Factory) (argv : List Value) : Except Error Template :=
  match f.metadata.urlIndex with
  | some i => overrideTarget (f.metadata.template.withTarget f.target.url) argv i
  | none => pure (f.metadata.template.withTarget f.target.url)

/-- A factory gets past binding exactly when its seed template is made and the
expanded arguments bind. -/
theorem Factory.prepare_eq_ok {f : Factory} {argv : List Value} {t : Template}
    {args : List Value} {vars : Variables} :
    f.prepare argv = .ok (t, args, vars) ↔
      f.seed argv = .ok t ∧ args = expandArguments argv f.metadata.indexToExpand ∧
        bindVariables args f.metadata.indexToName f.expanders = .ok vars := by
  unfold Factory.prepare Factory.seed
  cases f.metadata.urlIndex with
  | some i =>
    simp only [bind_eq_ok, pure_eq_ok, Prod.mk.injEq]
    constructor
    · rintro ⟨t', ht, vars', hbind, rfl, rfl, rfl⟩
      exact ⟨ht, rfl, hbind⟩
    · rintro ⟨ht, rfl, hbind⟩
      exact ⟨t, ht, vars, hbind, rfl, rfl, rfl⟩
  | none =>
    simp only [bind_eq_ok, pure_eq_ok, Prod.mk.injEq]
    constructor
    · rintro ⟨t', rfl, vars', hbind, rfl, rfl, rfl⟩
      exact ⟨rfl, rfl, hbind⟩
    · rintro ⟨rfl, rfl, hbind⟩
      exact ⟨_, rfl, vars, hbind, rfl, rfl, rfl⟩

/-- In a factory that gets past binding, a name whose last position is the `k`-th
slot of the argument at `i` holds that slot, through the slot's expander. -/
theorem Factory.get?_slot {f : Factory} {argv : List Value} {t : Template}
    {args : List Value} {vars : Variables} (h : f.prepare argv = .ok (t, args, vars))
    {i k : Nat} (hi : i < argv.length)
    (hk : k < slotWidth f.metadata.indexToExpand i argv[i]) {n : String}
    (hn : lastPositionOf n f.metadata.indexToName =
      some (slotOffset f.metadata.indexToExpand argv i + k)) :
    ∃ v w, (slotsOf f.metadata.indexToExpand i argv[i])[k]? = some v ∧
      Expander.applyAt f.expanders (slotOffset f.metadata.indexToExpand argv i + k) v = .ok w ∧
      vars.get? n = some w := by
  obtain ⟨-, rfl, hbind⟩ := Factory.prepare_eq_ok.1 h
  obtain ⟨v, w, hv, hw, hget⟩ := bindVariables_get? hbind hn
  rw [getElem?_expandArguments argv _ hi hk] at hv
  exact ⟨v, w, hv, hw, hget⟩

/-! ## Alignment -/

/-- Aggregate expansion lays the arguments out along their offsets, and binding then
gives each name the slot of its position.

The expanded vector has as many slots as the widths sum to; the slots of the
argument at position `i` start at its offset and are its own slots; with no record
at a flagged position nothing moves. In a factory that gets past binding, a name
whose last position is the `k`-th slot of a record at a flagged position holds the
record's first field named by the `k`-th name of the order (null when there is
none), and a name whose last position is the offset of any other argument holds
that argument, each through the expander of its slot. -/
theorem expandArguments_aligned (argv : List Value) (expand : List (Nat × FieldOrder)) :
    (expandArguments argv expand).length =
        (argv.zipIdx.map fun (v, i) => slotWidth expand i v).sum ∧
    (∀ i (hi : i < argv.length),
      (expandArguments argv expand).extract (slotOffset expand argv i)
        (slotOffset expand argv i + slotWidth expand i argv[i]) = slotsOf expand i argv[i]) ∧
    ((∀ i (hi : i < argv.length) order, entryAt? i expand = some order →
        ∀ tn fs, argv[i] ≠ .record tn fs) →
      expandArguments argv expand = argv) ∧
    ∀ (f : Factory) (t : Template) (args : List Value) (vars : Variables),
      f.metadata.indexToExpand = expand → f.prepare argv = .ok (t, args, vars) →
      ∀ i (hi : i < argv.length) (n : String),
        (∀ order tn fs k (hk : k < order.length), entryAt? i expand = some order →
          argv[i] = .record tn fs →
          lastPositionOf n f.metadata.indexToName = some (slotOffset expand argv i + k) →
          ∃ w, Expander.applyAt f.expanders (slotOffset expand argv i + k)
              ((Record.get? ⟨tn, fs⟩ order[k]).getD .null) = .ok w ∧ vars.get? n = some w) ∧
        ((∀ order, entryAt? i expand = some order → ∀ tn fs, argv[i] ≠ .record tn fs) →
          lastPositionOf n f.metadata.indexToName = some (slotOffset expand argv i) →
          ∃ w, Expander.applyAt f.expanders (slotOffset expand argv i) argv[i] = .ok w ∧
            vars.get? n = some w) := by
  refine ⟨length_expandArguments argv expand, fun i hi => expandArguments_extract argv expand hi,
    expandArguments_eq_self argv expand, ?_⟩
  rintro f t args vars rfl h i hi n
  constructor
  · -- the `k`-th slot of a flagged record is its field named `order[k]`
    intro order tn fs k hk hord hrec hn
    have hslots : slotsOf f.metadata.indexToExpand i argv[i] = Record.valuesIn ⟨tn, fs⟩ order := by
      rw [hrec, slotsOf_record hord]
    have hwidth : k < slotWidth f.metadata.indexToExpand i argv[i] := by
      rw [← length_slotsOf, hslots, length_valuesIn]
      exact hk
    obtain ⟨v, w, hv, hw, hget⟩ := Factory.get?_slot h hi hwidth hn
    rw [hslots, getElem?_valuesIn, List.getElem?_eq_getElem hk] at hv
    cases hv
    exact ⟨w, hw, hget⟩
  · -- any other argument is its own single slot
    intro hnot hn
    have hslots := slotsOf_of_not_record hnot
    have hwidth : 0 < slotWidth f.metadata.indexToExpand i argv[i] := by
      rw [← length_slotsOf, hslots]
      exact Nat.one_pos
    obtain ⟨v, w, hv, hw, hget⟩ := Factory.get?_slot h hi hwidth hn
    rw [hslots] at hv
    cases hv
    exact ⟨w, hw, hget⟩

/-- A two-field record flagged at position 1 spreads over slots 1 and 2, so the name
at slot 2 gets its field `b` although the record lists `b` first. -/
theorem expandArguments_aligned_pair :
    ∃ t args vars,
      (Resolver.withDefaults.resolve (Target.ofUrl "http://h")
          { template := Template.ofUri .get "/{y}", indexToName := [(0, ["h"]), (2, ["y"])],
            indexToExpand := [(1, ["a", "b"])] }).prepare
          [.str "head", .record "Pair" [("b", .str "two"), ("a", .int 1)], .str "tail"] =
        .ok (t, args, vars) ∧
      lastPositionOf "y" [(0, ["h"]), (2, ["y"])] =
        some (slotOffset [(1, ["a", "b"])]
          [.str "head", .record "Pair" [("b", .str "two"), ("a", .int 1)], .str "tail"] 1 + 1) ∧
      ∃ w, Expander.applyAt [] 2
          ((Record.get? ⟨"Pair", [("b", .str "two"), ("a", .int 1)]⟩ "b").getD .null) = .ok w ∧
        vars.get? "y" = some w := by
  obtain ⟨t, args, vars, hprep⟩ : ∃ t args vars,
      (Resolver.withDefaults.resolve (Target.ofUrl "http://h")
          { template := Template.ofUri .get "/{y}", indexToName := [(0, ["h"]), (2, ["y"])],
            indexToExpand := [(1, ["a", "b"])] }).prepare
          [.str "head", .record "Pair" [("b", .str "two"), ("a", .int 1)], .str "tail"] =
        .ok (t, args, vars) := ⟨_, _, _, rfl⟩
  have hlast : lastPositionOf "y" [(0, ["h"]), (2, ["y"])] =
      some (slotOffset [(1, ["a", "b"])]
        [.str "head", .record "Pair" [("b", .str "two"), ("a", .int 1)], .str "tail"] 1 + 1) := by
    decide
  exact ⟨t, args, vars, hprep, hlast,
    ((expandArguments_aligned _ _).2.2.2 _ t args vars rfl hprep 1 (by decide) "y").1
      ["a", "b"] "Pair" _ 1 (by decide) rfl rfl hlast⟩

end HttpBlueprint
