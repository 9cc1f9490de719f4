import HttpBlueprint.Proofs.Factory
import HttpBlueprint.Proofs.Multimap
/-!
# The binding law

Binding visits the named positions in order and stops at the first that fails. A
position fails when it is past the arguments, or when its expander refuses one of the
values it is handed: nothing for null, each item of a list that is not null, and any
other value itself (`Expander.inputs`). The call then fails as the first failing
position does (`bindFailure`); in a map sorted by position, that is the smallest.

A call that binds binds every name its positions list, once each, in the order in
which the positions and their names first list them. A name gets the value of the last
position listing it, through that position's expander; in a sorted map, the largest.
An expander makes null of null, the list of the items' texts of a list, and the text
of anything else (`Expander.output`). The factory of a method uses the method's
explicit expanders when it has any, and its expander factories' products otherwise,
never a mix of the two.
-/

namespace HttpBlueprint

/-! ## What an expander is handed -/

namespace Expander

/-- The values an expander is handed for an argument: none for null, the items of a
list that are not null, and any other value itself. -/
def inputs : Value → List Value
  | .null => []
  | .list items => items.filter (!·.isNull)
  | v => [v]

/-- What the texts an expander gives make of an argument: null stays null, a list
becomes the list of its items' texts, and any other value the text it was given. -/
def output : Value → List String → Value
  | .null, _ => .null
  | .list _, texts => .list (texts.map .str)
  | _, texts => .str (String.join texts)

/-- An expander hands each of its inputs to `expand` in turn and makes the argument's
value of their texts. -/
theorem apply_eq_map (e : Expander) (v : Value) :
    e.apply v = output v <$> (inputs v).mapM e.expand := by
  by_cases hnull : v = .null
  · subst hnull
    rfl
  by_cases hlist : ∃ items, v = .list items
  · obtain ⟨items, rfl⟩ := hlist
    rw [apply.eq_2, ← bind_pure_comp]
    rfl
  · -- any other value is handed over once, and its text becomes a string
    have hother : ∀ items, v = .list items → False := fun items h => hlist ⟨items, h⟩
    rw [apply.eq_3 e v hnull hother, inputs.eq_3 v hnull hother]
    cases hx : e.expand v <;> simp [hx, output.eq_3 _ _ hnull hother]

/-- An expander fails on an argument as it does on the first input it refuses. -/
theorem failureOf_apply (e : Expander) (v : Value) :
    failureOf (e.apply v) = (inputs v).findSome? fun x => failureOf (e.expand x) := by
  rw [apply_eq_map, failureOf_map, failureOf_mapM]

/-- An expander gives a value exactly when it gives a text for each input, and the
value is what those texts make of the argument. -/
theorem apply_eq_ok (e : Expander) {v w : Value} :
    e.apply v = .ok w ↔
      ∃ texts, List.Forall₂ (fun x s => e.expand x = .ok s) (inputs v) texts ∧
        w = output v texts := by
  rw [apply_eq_map, map_eq_ok]
  simp only [mapM_eq_ok]
  constructor
  · rintro ⟨texts, htexts, rfl⟩
    exact ⟨texts, htexts, rfl⟩
  · rintro ⟨texts, htexts, rfl⟩
    exact ⟨texts, htexts, rfl⟩

end Expander

/-! ## Where binding fails -/

/-- Why binding fails at a position, if it does: the position is past the arguments,
or its expander refuses one of the values it is handed, and then the first of them. -/
def bindFailure (argv : List Value) (expanders : List (Nat × Expander)) (p : Nat) :
    Option Error :=
  match argv[p]?, entryAt? p expanders with
  | none, _ => some (.invalidArgument (outOfRangeMessage p argv.length))
  | some _, none => none
  | some v, some e => (Expander.inputs v).findSome? fun x => failureOf (e.expand x)

theorem failureOf_bindStep (argv : List Value) (expanders : List (Nat × Expander))
    (vars : Variables) (entry : Nat × List String) :
    failureOf (bindStep argv expanders vars entry) = bindFailure argv expanders entry.1 := by
  unfold bindStep
  cases hv : argv[entry.1]? with
  | none =>
    rw [argument_of_length_le (List.getElem?_eq_none_iff.1 hv)]
    simp only [bindFailure, hv]
    rfl
  | some v =>
    rw [argument_eq_ok.2 hv]
    -- with the argument there, only its expander can fail
    cases he : entryAt? entry.1 expanders with
    | none => simp [Expander.applyAt, bindFailure, hv, he]
    | some e =>
      show failureOf (Expander.applyAt expanders entry.1 v >>= _) = _
      rw [failureOf_bind_of_ok fun _ _ => rfl, Expander.applyAt, he, Expander.failureOf_apply]
      simp [bindFailure, hv, he]

/-- Binding fails as the first failing position does. -/
theorem failureOf_bindVariables (argv : List Value) (names : List (Nat × List String))
    (expanders : List (Nat × Expander)) :
    failureOf (bindVariables argv names expanders) =
      names.findSome? fun entry => bindFailure argv expanders entry.1 := by
  rw [bindVariables_eq_foldlM, failureOf_foldlM (fun entry => bindFailure argv expanders entry.1)
    (fun entry => [entry]) (fun vars entry _ => by rw [failureOf_bindStep, List.findSome?_singleton]),
    List.flatMap_singleton']

/-- In a list sorted by position, the first entry whose position has a fault is that of
the smallest position with one. -/
theorem findSome?_eq_some_of_sorted {β ε : Type} {l : List (Nat × β)}
    (hsorted : l.Pairwise (·.1 < ·.1)) {f : Nat → Option ε} {e : ε} :
    l.findSome? (fun x => f x.1) = some e ↔
      ∃ p b, (p, b) ∈ l ∧ f p = some e ∧ ∀ q c, (q, c) ∈ l → q < p → f q = none := by
  rw [List.findSome?_eq_some_iff]
  constructor
  · rintro ⟨l₁, ⟨p, b⟩, l₂, rfl, hp, hbefore⟩
    refine ⟨p, b, by simp, hp, fun q c hq hlt => ?_⟩
    rcases List.mem_append.1 hq with hq | hq
    · exact hbefore _ hq
    · -- the entry itself and those after it have positions from `p` up
      have hafter : ((p, b) :: l₂).Pairwise (·.1 < ·.1) := (List.pairwise_append.1 hsorted).2.1
      rcases List.mem_cons.1 hq with heq | hq
      · cases heq
        exact absurd hlt (lt_irrefl _)
      · have := (List.pairwise_cons.1 hafter).1 _ hq
        dsimp only at this
        omega
  · rintro ⟨p, b, hmem, hp, hmin⟩
    obtain ⟨l₁, l₂, rfl⟩ := List.append_of_mem hmem
    refine ⟨l₁, (p, b), l₂, rfl, hp, fun x hx => hmin x.1 x.2 (by simp [hx]) ?_⟩
    exact (List.pairwise_append.1 hsorted).2.2 x hx (p, b) List.mem_cons_self

/-! ## What binding binds -/

theorem map_fst_insertEntries (name : String) (v : Value) (es : List (String × Value)) :
    (Variables.insertEntries name v es).map (·.1) =
      if name ∈ es.map (·.1) then es.map (·.1) else es.map (·.1) ++ [name] := by
  induction es with
  | nil => simp [Variables.insertEntries]
  | cons e rest ih =>
    obtain ⟨n, w⟩ := e
    by_cases hn : n = name
    · simp [Variables.insertEntries, hn]
    · have hname : name ≠ n := fun h => hn h.symm
      simp only [Variables.insertEntries, beq_iff_eq, hn, if_false, List.map_cons, ih,
        List.mem_cons, hname, false_or]
      split <;> rfl

/-- Binding names one after another binds them in the order of their first binding. -/
theorem names_foldl_insert (v : Value) :
    ∀ (ns K : List String) (vars : Variables), vars.entries.map (·.1) = K.eraseDups →
      (ns.foldl (fun vars n => vars.insert n v) vars).entries.map (·.1) = (K ++ ns).eraseDups
  | [], K, vars, h => by simpa using h
  | n :: rest, K, vars, h => by
    have hstep : (vars.insert n v).entries.map (·.1) = (K ++ [n]).eraseDups := by
      rw [Variables.insert, map_fst_insertEntries, h, eraseDups_append_singleton]
      simp only [List.mem_eraseDups]
    rw [List.foldl_cons, names_foldl_insert v rest (K ++ [n]) _ hstep, List.append_assoc,
      List.singleton_append]

theorem names_foldlM_bindStep {argv : List Value} {expanders : List (Nat × Expander)} :
    ∀ (names : List (Nat × List String)) (K : List String) (vars₀ vars : Variables),
      vars₀.entries.map (·.1) = K.eraseDups →
      names.foldlM (bindStep argv expanders) vars₀ = .ok vars →
      vars.entries.map (·.1) = (K ++ names.flatMap (·.2)).eraseDups
  | [], K, vars₀, vars, h₀, h => by
    simp only [List.foldlM_nil, pure_eq_ok] at h
    simpa [← h] using h₀
  | (p, ns) :: rest, K, vars₀, vars, h₀, h => by
    obtain ⟨vars₁, hstep, hrest⟩ := foldlM_cons_eq_ok.1 h
    obtain ⟨v, w, -, -, rfl⟩ := bindStep_eq_ok.1 hstep
    rw [names_foldlM_bindStep rest (K ++ ns) _ vars (names_foldl_insert w ns K vars₀ h₀) hrest]
    simp

/-- A call that binds binds every listed name once, in the order of first listing. -/
theorem names_bindVariables {argv : List Value} {names : List (Nat × List String)}
    {expanders : List (Nat × Expander)} {vars : Variables}
    (h : bindVariables argv names expanders = .ok vars) :
    vars.entries.map (·.1) = (names.flatMap (·.2)).eraseDups := by
  rw [bindVariables_eq_foldlM] at h
  simpa using names_foldlM_bindStep names [] {} vars rfl h

/-- With each name bound once, a bound pair is what looking the name up gives. -/
theorem Variables.get?_of_mem {vars : Variables} {n : String} {w : Value}
    (hnd : (vars.entries.map (·.1)).Nodup) (h : (n, w) ∈ vars.entries) : vars.get? n = some w := by
  unfold Variables.get?
  cases hfind : vars.entries.find? (·.1 == n) with
  | none =>
    have := List.find?_eq_none.1 hfind (n, w) h
    simp at this
  | some x =>
    have hx : x.1 = n := by simpa using List.find?_some hfind
    have hmem := List.mem_of_find?_eq_some hfind
    -- the names are distinct, so the entry found is the pair itself
    have : x = (n, w) := List.inj_on_of_nodup_map hnd hmem h hx
    simp [this]

/-! ## The position a name is bound from -/

theorem lastPositionOf_eq_none {n : String} :
    ∀ {names : List (Nat × List String)},
      lastPositionOf n names = none ↔ ∀ p ns, (p, ns) ∈ names → n ∉ ns
  | [] => by simp [lastPositionOf]
  | (p, ns) :: rest => by
    by_cases hn : n ∈ ns
    · simp only [lastPositionOf, hn, if_true, Option.or_some, reduceCtorEq, false_iff]
      exact fun h => h p ns List.mem_cons_self hn
    · simp only [lastPositionOf, hn, if_false, Option.or_none, lastPositionOf_eq_none,
        List.mem_cons, Prod.mk.injEq]
      constructor
      · rintro h q ms (⟨rfl, rfl⟩ | hmem)
        · exact hn
        · exact h q ms hmem
      · exact fun h q ms hmem => h q ms (.inr hmem)

/-- A name some position lists has a last position. -/
theorem lastPositionOf_isSome {n : String} {names : List (Nat × List String)}
    (h : n ∈ names.flatMap (·.2)) : ∃ p, lastPositionOf n names = some p := by
  cases hlast : lastPositionOf n names with
  | some p => exact ⟨p, rfl⟩
  | none =>
    obtain ⟨⟨p, ns⟩, hmem, hn⟩ := List.mem_flatMap.1 h
    exact absurd hn (lastPositionOf_eq_none.1 hlast p ns hmem)

/-- In a map sorted by position, the last position listing a name is the largest. -/
theorem lastPositionOf_spec {n : String} :
    ∀ {names : List (Nat × List String)}, names.Pairwise (·.1 < ·.1) →
      ∀ {p : Nat}, lastPositionOf n names = some p →
        (∃ ns, (p, ns) ∈ names ∧ n ∈ ns) ∧ ∀ q ms, (q, ms) ∈ names → n ∈ ms → q ≤ p
  | [], _, _, h => by simp [lastPositionOf] at h
  | (p₀, ns₀) :: rest, hsorted, p, h => by
    obtain ⟨hhead, hrest⟩ := List.pairwise_cons.1 hsorted
    cases hlast : lastPositionOf n rest with
    | some q =>
      -- a later position lists the name: it is the one, and larger than this one
      simp only [lastPositionOf, hlast, Option.some_or, Option.some.injEq] at h
      subst h
      obtain ⟨⟨ns, hmem, hn⟩, hmax⟩ := lastPositionOf_spec hrest hlast
      refine ⟨⟨ns, List.mem_cons_of_mem _ hmem, hn⟩, fun q ms hq hnq => ?_⟩
      rcases List.mem_cons.1 hq with heq | hq
      · cases heq
        exact Nat.le_of_lt (hhead _ hmem)
      · exact hmax q ms hq hnq
    | none =>
      -- no later position lists the name: this one does
      have hnone := lastPositionOf_eq_none.1 hlast
      by_cases hn : n ∈ ns₀
      · simp only [lastPositionOf, hlast, hn, if_true, Option.none_or, Option.some.injEq] at h
        subst h
        refine ⟨⟨ns₀, List.mem_cons_self, hn⟩, fun q ms hq hnq => ?_⟩
        rcases List.mem_cons.1 hq with heq | hq
        · cases heq
          exact le_refl _
        · exact absurd hnq (hnone q ms hq)
      · simp [lastPositionOf, hlast, hn] at h

/-- In a call that binds, over a map sorted by position, each bound pair is a listed
name with the value of the largest position listing it, through that position's
expander. -/
theorem bound_of_mem {argv : List Value} {names : List (Nat × List String)}
    {expanders : List (Nat × Expander)} {vars : Variables} (hsorted : names.Pairwise (·.1 < ·.1))
    (h : bindVariables argv names expanders = .ok vars) {n : String} {w : Value}
    (hmem : (n, w) ∈ vars.entries) :
    ∃ p ns, (p, ns) ∈ names ∧ n ∈ ns ∧ (∀ q ms, (q, ms) ∈ names → n ∈ ms → q ≤ p) ∧
      ∃ v, argv[p]? = some v ∧ Expander.applyAt expanders p v = .ok w := by
  have hnames := names_bindVariables h
  have hlisted : n ∈ names.flatMap (·.2) := by
    rw [← List.mem_eraseDups, ← hnames]
    exact List.mem_map_of_mem hmem
  obtain ⟨p, hp⟩ := lastPositionOf_isSome hlisted
  obtain ⟨v, w', hv, hw', hget⟩ := bindVariables_get? h hp
  have hget' : vars.get? n = some w := by
    refine Variables.get?_of_mem ?_ hmem
    rw [hnames]
    exact nodup_eraseDups _
  obtain ⟨⟨ns, hpmem, hn⟩, hmax⟩ := lastPositionOf_spec hsorted hp
  refine ⟨p, ns, hpmem, hn, hmax, v, hv, ?_⟩
  rw [hw', ← Option.some.inj (hget.symm.trans hget')]

/-! ## Maps sorted by position

The law below reads a names map sorted by position; a method description keeps it so,
since every position is set by `setAt`. -/

/-- An entry after setting a position is the new one or an old one. -/
theorem mem_setAt {α : Type} {k : Nat} {v : α} {x : Nat × α} :
    ∀ {xs : List (Nat × α)}, x ∈ setAt k v xs → x = (k, v) ∨ x ∈ xs
  | [], h => .inl (List.mem_singleton.1 h)
  | (k', v') :: rest, h => by
    unfold setAt at h
    split_ifs at h
    · rcases List.mem_cons.1 h with rfl | h
      · exact .inl rfl
      · exact .inr (List.mem_cons_of_mem _ h)
    · exact List.mem_cons.1 h
    · rcases List.mem_cons.1 h with rfl | h
      · exact .inr List.mem_cons_self
      · exact (mem_setAt h).imp id (List.mem_cons_of_mem _)

/-- Setting a position keeps a map sorted by position. -/
theorem pairwise_setAt {α : Type} (k : Nat) (v : α) :
    ∀ {xs : List (Nat × α)}, xs.Pairwise (·.1 < ·.1) → (setAt k v xs).Pairwise (·.1 < ·.1)
  | [], _ => List.pairwise_singleton _ _
  | (k', v') :: rest, h => by
    obtain ⟨hhead, hrest⟩ := List.pairwise_cons.1 h
    unfold setAt
    split_ifs with heq hlt
    · -- the position's entry is replaced in place
      subst heq
      exact List.pairwise_cons.2 ⟨hhead, hrest⟩
    · -- the position goes before every other
      refine List.pairwise_cons.2 ⟨fun x hx => ?_, h⟩
      rcases List.mem_cons.1 hx with rfl | hx
      · exact hlt
      · exact lt_trans hlt (hhead x hx)
    · -- the position goes after the first, into the rest
      refine List.pairwise_cons.2 ⟨fun x hx => ?_, pairwise_setAt k v hrest⟩
      rcases mem_setAt hx with rfl | hx
      · show k' < k
        omega
      · exact hhead x hx

/-- Naming a position keeps a method's names map sorted by position. -/
theorem CallMetadata.pairwise_name {m : CallMetadata} (i : Nat) (n : String)
    (h : m.indexToName.Pairwise (·.1 < ·.1)) : (m.name i n).indexToName.Pairwise (·.1 < ·.1) :=
  pairwise_setAt _ _ h

/-! ## The law -/

/-- The binding law, over a map of names sorted by position.

Binding fails exactly when some position fails (`bindFailure`: it is past the
arguments, or its expander refuses a value it is handed), and then as the smallest
such position does. When it succeeds, it binds every listed name once, in the order of
first listing, each to the value at the largest position listing it through that
position's expander. An expander gives a value exactly when it gives a text for each
of its inputs (nothing for null, the items of a list that are not null, any other
value itself), and the value is what the texts make of the argument. A resolved
factory takes the method's explicit expanders when it has any, and the expander
factories' products otherwise. -/
theorem bindVariables_law (argv : List Value) (names : List (Nat × List String))
    (expanders : List (Nat × Expander)) (hsorted : names.Pairwise (·.1 < ·.1)) :
    (∀ e, bindVariables argv names expanders = .error e ↔
      ∃ p ns, (p, ns) ∈ names ∧ bindFailure argv expanders p = some e ∧
        ∀ q ms, (q, ms) ∈ names → q < p → bindFailure argv expanders q = none) ∧
    (∀ vars, bindVariables argv names expanders = .ok vars →
      vars.entries.map (·.1) = (names.flatMap (·.2)).eraseDups ∧
      ∀ n w, (n, w) ∈ vars.entries → ∃ p ns, (p, ns) ∈ names ∧ n ∈ ns ∧
        (∀ q ms, (q, ms) ∈ names → n ∈ ms → q ≤ p) ∧
        ∃ v, argv[p]? = some v ∧ Expander.applyAt expanders p v = .ok w) ∧
    (∀ (e : Expander) (v w : Value), e.apply v = .ok w ↔
      ∃ texts, List.Forall₂ (fun x s => e.expand x = .ok s) (Expander.inputs v) texts ∧
        w = Expander.output v texts) ∧
    ∀ (r : Resolver) (target : Target) (m : CallMetadata),
      (r.resolve target m).expanders =
        if m.indexToExpander.isEmpty then m.indexToExpanderFactory else m.indexToExpander := by
  refine ⟨fun e => ?_, fun vars h => ⟨names_bindVariables h, fun n w hmem => bound_of_mem hsorted h hmem⟩,
    fun e v w => Expander.apply_eq_ok e, fun _ _ _ => rfl⟩
  rw [← failureOf_eq_some, failureOf_bindVariables, findSome?_eq_some_of_sorted hsorted]

/-- Two names for the first argument, a name at both positions, and a list with a null
through an expander: the name listed twice keeps its first place. -/
theorem bindVariables_law_aliases :
    [(0, ["a", "alias"]), (1, ["v", "a"])].Pairwise (fun x y : Nat × List String => x.1 < y.1) ∧
    ∃ vars, bindVariables [.str "x", .list [.str "y", .null]] [(0, ["a", "alias"]), (1, ["v", "a"])]
        [(1, Expander.toText)] = .ok vars ∧
      vars.entries.map (·.1) = ["a", "alias", "v"] := by
  have hsorted : [(0, ["a", "alias"]), (1, ["v", "a"])].Pairwise
      (fun x y : Nat × List String => x.1 < y.1) := by decide
  obtain ⟨vars, hvars⟩ : ∃ vars, bindVariables [.str "x", .list [.str "y", .null]]
      [(0, ["a", "alias"]), (1, ["v", "a"])] [(1, Expander.toText)] = .ok vars := ⟨_, rfl⟩
  refine ⟨hsorted, vars, hvars, ?_⟩
  rw [((bindVariables_law _ _ _ hsorted).2.1 vars hvars).1]
  rfl

end HttpBlueprint
