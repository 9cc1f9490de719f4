import HttpBlueprint.Proofs.Basic
/-!
# Multimaps as ordered maps of key classes

A multimap compares keys through their class (`keyClass`): the key itself, or its
ASCII lower case in a case-insensitive multimap. Read through the classes, every
multimap written from an empty one by appends and replaces is an ordered map from
classes to value lists:

* no two entries share a class, and the classes stand in the order of their first
  write (`classes_write`, `classes_writeAll`);
* `append` adds values after those of the entry the key matches, under that entry's
  spelling, and `replace` rebinds that entry in place under the new spelling; a key
  of a new class goes last (`appendEntries_eq_modify`, `replaceEntries_eq_set`);
* `get?` reads the values of the key's class (`get?_eq_lookup`).

`OrderedMap` gathers these facts, and `writeAll_orderedMap` proves them of every
multimap written from an empty one.

Two runs have closed forms: appends to an empty exact-key multimap group the values
by key (`entries_foldl_append`), and after a run of replaces each class holds the
entry of its last replace (`find?_foldl_replace`).
-/

namespace HttpBlueprint

/-- Deduplicating a list leaves each element once. -/
theorem nodup_eraseDups {β : Type} [BEq β] [LawfulBEq β] : ∀ xs : List β, xs.eraseDups.Nodup
  | [] => List.nodup_nil
  | x :: xs => by
    rw [List.eraseDups_cons, List.nodup_cons]
    exact ⟨by simp, nodup_eraseDups (xs.filter fun y => !y == x)⟩
termination_by xs => xs.length
decreasing_by exact Nat.lt_succ_of_le (List.length_filter_le _ _)

/-- Adding an element last, unless the list holds it, keeps a list duplicate-free. -/
theorem nodup_addLast {cs : List String} (c : String) (h : cs.Nodup) :
    (if c ∈ cs then cs else cs ++ [c]).Nodup := by
  split
  · exact h
  · rename_i hc
    refine List.nodup_append.2 ⟨h, List.nodup_singleton c, ?_⟩
    rintro a ha b hb rfl
    exact hc (List.mem_singleton.1 hb ▸ ha)

/-- Deduplicating a list with one more element adds it last unless the list holds it. -/
theorem eraseDups_append_singleton {cs : List String} (c : String) :
    (cs ++ [c]).eraseDups = if c ∈ cs then cs.eraseDups else cs.eraseDups ++ [c] := by
  rw [List.eraseDups_append]
  by_cases hc : c ∈ cs <;> simp [List.removeAll, List.eraseDups_cons, hc]

theorem prefix_addLast (cs : List String) (c : String) :
    cs <+: if c ∈ cs then cs else cs ++ [c] := by
  split
  · exact List.prefix_refl cs
  · exact List.prefix_append cs [c]

namespace Multimap

variable {α : Type}

/-- The class of each entry's key, in entry order. -/
def classes (m : Multimap α) : List String :=
  m.entries.map fun e => keyClass m.caseInsensitive e.1

/-- The ordered map a multimap stands for: each entry's key class with its values. -/
def classMap (m : Multimap α) : List (String × List α) :=
  m.entries.map fun e => (keyClass m.caseInsensitive e.1, e.2)

/-- The position of the first entry a key matches. -/
def position? (m : Multimap α) (key : String) : Option Nat :=
  m.entries.findIdx? fun e => keyMatches m.caseInsensitive e.1 key

/-- A write to a multimap. -/
inductive Write (α : Type) where
  | append (key : String) (vals : List α)
  | replace (key : String) (vals : List α)

/-- The key a write names. -/
def Write.key : Write α → String
  | .append key _ => key
  | .replace key _ => key

/-- Performs a write. -/
def write (m : Multimap α) : Write α → Multimap α
  | .append key vals => m.append key vals
  | .replace key vals => m.replace key vals

@[simp] theorem append_entries (m : Multimap α) (key : String) (vals : List α) :
    (m.append key vals).entries = appendEntries m.caseInsensitive key vals m.entries := rfl

@[simp] theorem replace_entries (m : Multimap α) (key : String) (vals : List α) :
    (m.replace key vals).entries = replaceEntries m.caseInsensitive key vals m.entries := rfl

@[simp] theorem append_caseInsensitive (m : Multimap α) (key : String) (vals : List α) :
    (m.append key vals).caseInsensitive = m.caseInsensitive := rfl

@[simp] theorem replace_caseInsensitive (m : Multimap α) (key : String) (vals : List α) :
    (m.replace key vals).caseInsensitive = m.caseInsensitive := rfl

@[simp] theorem write_caseInsensitive (m : Multimap α) (w : Write α) :
    (m.write w).caseInsensitive = m.caseInsensitive := by
  cases w <;> rfl

@[simp] theorem foldl_write_caseInsensitive (m : Multimap α) (ws : List (Write α)) :
    (ws.foldl write m).caseInsensitive = m.caseInsensitive := by
  induction ws generalizing m with
  | nil => rfl
  | cons w ws ih => rw [List.foldl_cons, ih, write_caseInsensitive]

/-! ## Classes after a write -/

/-- An append keeps the classes when the key's class has an entry and adds the class
last otherwise. -/
theorem map_keyClass_appendEntries (ci : Bool) (key : String) (vals : List α)
    (es : List (String × List α)) :
    (appendEntries ci key vals es).map (fun e => keyClass ci e.1) =
      if keyClass ci key ∈ es.map (fun e => keyClass ci e.1) then es.map (fun e => keyClass ci e.1)
      else es.map (fun e => keyClass ci e.1) ++ [keyClass ci key] := by
  induction es with
  | nil => simp [appendEntries]
  | cons e rest ih =>
    obtain ⟨k, vs⟩ := e
    by_cases hk : keyMatches ci k key
    · simp [appendEntries, hk, keyMatches_iff.1 hk]
    · have hne : keyClass ci key ≠ keyClass ci k := fun h => hk (keyMatches_iff.2 h.symm)
      simp only [appendEntries, hk, Bool.false_eq_true, if_false, List.map_cons, ih,
        List.mem_cons, hne, false_or]
      split <;> rfl

/-- A replace keeps the classes when the key's class has an entry and adds the class
last otherwise: the entry it rebinds keeps its class. -/
theorem map_keyClass_replaceEntries (ci : Bool) (key : String) (vals : List α)
    (es : List (String × List α)) :
    (replaceEntries ci key vals es).map (fun e => keyClass ci e.1) =
      if keyClass ci key ∈ es.map (fun e => keyClass ci e.1) then es.map (fun e => keyClass ci e.1)
      else es.map (fun e => keyClass ci e.1) ++ [keyClass ci key] := by
  induction es with
  | nil => simp [replaceEntries]
  | cons e rest ih =>
    obtain ⟨k, vs⟩ := e
    by_cases hk : keyMatches ci k key
    · simp [replaceEntries, hk, keyMatches_iff.1 hk]
    · have hne : keyClass ci key ≠ keyClass ci k := fun h => hk (keyMatches_iff.2 h.symm)
      simp only [replaceEntries, hk, Bool.false_eq_true, if_false, List.map_cons, ih,
        List.mem_cons, hne, false_or]
      split <;> rfl

theorem classes_append (m : Multimap α) (key : String) (vals : List α) :
    (m.append key vals).classes =
      if keyClass m.caseInsensitive key ∈ m.classes then m.classes
      else m.classes ++ [keyClass m.caseInsensitive key] :=
  map_keyClass_appendEntries m.caseInsensitive key vals m.entries

theorem classes_replace (m : Multimap α) (key : String) (vals : List α) :
    (m.replace key vals).classes =
      if keyClass m.caseInsensitive key ∈ m.classes then m.classes
      else m.classes ++ [keyClass m.caseInsensitive key] :=
  map_keyClass_replaceEntries m.caseInsensitive key vals m.entries

/-- A write keeps the classes when the key's class is bound and adds it last otherwise. -/
theorem classes_write (m : Multimap α) (w : Write α) :
    (m.write w).classes =
      if keyClass m.caseInsensitive w.key ∈ m.classes then m.classes
      else m.classes ++ [keyClass m.caseInsensitive w.key] := by
  cases w with
  | append key vals => exact classes_append m key vals
  | replace key vals => exact classes_replace m key vals

theorem nodup_classes_append {m : Multimap α} (h : m.classes.Nodup) (key : String)
    (vals : List α) : (m.append key vals).classes.Nodup := by
  rw [classes_append]
  exact nodup_addLast _ h

theorem nodup_classes_replace {m : Multimap α} (h : m.classes.Nodup) (key : String)
    (vals : List α) : (m.replace key vals).classes.Nodup := by
  rw [classes_replace]
  exact nodup_addLast _ h

theorem classes_prefix_replace (m : Multimap α) (key : String) (vals : List α) :
    m.classes <+: (m.replace key vals).classes := by
  rw [classes_replace]
  exact prefix_addLast _ _

/-- Replaces keep every class where it was: the classes before a run of replaces come
first after it. -/
theorem classes_prefix_foldl_replace {β : Type} (key : β → String) (vals : β → List α)
    (xs : List β) (m : Multimap α) :
    m.classes <+: (xs.foldl (fun m x => m.replace (key x) (vals x)) m).classes := by
  induction xs generalizing m with
  | nil => exact List.prefix_refl _
  | cons x xs ih => exact (classes_prefix_replace m (key x) (vals x)).trans (ih _)

/-- The classes of a multimap written from empty are the classes of the written keys,
each once, in the order of its first write. -/
theorem classes_writeAll {m₀ : Multimap α} (h₀ : m₀.entries = []) (ws : List (Write α)) :
    (ws.foldl write m₀).classes = (ws.map fun w => keyClass m₀.caseInsensitive w.key).eraseDups := by
  induction ws using List.reverseRecOn with
  | nil => simp [classes, h₀]
  | append_singleton ws w ih =>
    rw [List.foldl_append, List.foldl_cons, List.foldl_nil, classes_write, ih,
      foldl_write_caseInsensitive, List.map_append, List.map_singleton, eraseDups_append_singleton]
    simp only [List.mem_eraseDups]

/-! ## Each write by position -/

/-- An append adds the values to the first entry the key matches, which keeps its
spelling, or adds the key last. -/
theorem appendEntries_eq_modify (ci : Bool) (key : String) (vals : List α)
    (es : List (String × List α)) :
    appendEntries ci key vals es = match es.findIdx? (fun e => keyMatches ci e.1 key) with
      | some i => es.modify i fun e => (e.1, e.2 ++ vals)
      | none => es ++ [(key, vals)] := by
  induction es with
  | nil => rfl
  | cons e rest ih =>
    obtain ⟨k, vs⟩ := e
    rw [List.findIdx?_cons]
    by_cases hk : keyMatches ci k key
    · simp [appendEntries, hk]
    · cases hpos : rest.findIdx? (fun e => keyMatches ci e.1 key) with
      | none => simp_all [appendEntries]
      | some i => simp_all [appendEntries]

/-- A replace rebinds the first entry the key matches, in place and under the key's
spelling, or adds the key last. -/
theorem replaceEntries_eq_set (ci : Bool) (key : String) (vals : List α)
    (es : List (String × List α)) :
    replaceEntries ci key vals es = match es.findIdx? (fun e => keyMatches ci e.1 key) with
      | some i => es.set i (key, vals)
      | none => es ++ [(key, vals)] := by
  induction es with
  | nil => rfl
  | cons e rest ih =>
    obtain ⟨k, vs⟩ := e
    rw [List.findIdx?_cons]
    by_cases hk : keyMatches ci k key
    · simp [replaceEntries, hk]
    · cases hpos : rest.findIdx? (fun e => keyMatches ci e.1 key) with
      | none => simp_all [replaceEntries]
      | some i => simp_all [replaceEntries]

theorem append_entries_of_position?_eq_some {m : Multimap α} {key : String} {i : Nat}
    (h : m.position? key = some i) (vals : List α) :
    (m.append key vals).entries = m.entries.modify i fun e => (e.1, e.2 ++ vals) := by
  rw [position?] at h
  rw [append_entries, appendEntries_eq_modify, h]

theorem append_entries_of_position?_eq_none {m : Multimap α} {key : String}
    (h : m.position? key = none) (vals : List α) :
    (m.append key vals).entries = m.entries ++ [(key, vals)] := by
  rw [position?] at h
  rw [append_entries, appendEntries_eq_modify, h]

theorem replace_entries_of_position?_eq_some {m : Multimap α} {key : String} {i : Nat}
    (h : m.position? key = some i) (vals : List α) :
    (m.replace key vals).entries = m.entries.set i (key, vals) := by
  rw [position?] at h
  rw [replace_entries, replaceEntries_eq_set, h]

theorem replace_entries_of_position?_eq_none {m : Multimap α} {key : String}
    (h : m.position? key = none) (vals : List α) :
    (m.replace key vals).entries = m.entries ++ [(key, vals)] := by
  rw [position?] at h
  rw [replace_entries, replaceEntries_eq_set, h]

/-- Looking a key up finds the values of its class in the ordered map of classes. -/
theorem lookupEntries_eq_lookup (ci : Bool) (es : List (String × List α)) (key : String) :
    lookupEntries ci es key = (es.map fun e => (keyClass ci e.1, e.2)).lookup (keyClass ci key) := by
  induction es with
  | nil => rfl
  | cons e rest ih =>
    obtain ⟨k, vs⟩ := e
    rw [lookupEntries_cons, ih, List.map_cons, List.lookup_cons]
    by_cases hk : keyMatches ci k key
    · simp [hk, keyMatches_iff.1 hk]
    · have hne : (keyClass ci key == keyClass ci k) = false :=
        beq_eq_false_iff_ne.2 fun h => hk (keyMatches_iff.2 h.symm)
      simp [hk, hne]

theorem get?_eq_lookup (m : Multimap α) (key : String) :
    m.get? key = m.classMap.lookup (keyClass m.caseInsensitive key) :=
  lookupEntries_eq_lookup m.caseInsensitive m.entries key

/-- A multimap written by `ws` stands for an ordered map from key classes to value
lists under the key comparison `ci`: its classes are the classes of the written keys,
each once, in the order of their first write; an append adds the values to the entry
at the key's position, under that entry's spelling, and a replace rebinds that entry
in place under the key's spelling, a key of a new class going last; and a look-up
reads the values of the key's class. -/
structure OrderedMap (ci : Bool) (ws : List (Write α)) (m : Multimap α) : Prop where
  classes_eq : m.classes = (ws.map fun w => keyClass ci w.key).eraseDups
  nodup : m.classes.Nodup
  append_at : ∀ key vals i, m.position? key = some i →
    (m.append key vals).entries = m.entries.modify i fun e => (e.1, e.2 ++ vals)
  append_new : ∀ key vals, m.position? key = none →
    (m.append key vals).entries = m.entries ++ [(key, vals)]
  replace_at : ∀ key vals i, m.position? key = some i →
    (m.replace key vals).entries = m.entries.set i (key, vals)
  replace_new : ∀ key vals, m.position? key = none →
    (m.replace key vals).entries = m.entries ++ [(key, vals)]
  get?_eq : ∀ key, m.get? key = m.classMap.lookup (keyClass ci key)

/-- Every multimap written from an empty one, with exact or case-insensitive keys,
stands for an ordered map from key classes to value lists. -/
theorem writeAll_orderedMap (ci : Bool) (ws : List (Write α)) :
    (ws.foldl write (if ci then emptyCaseInsensitive else empty)).OrderedMap ci ws := by
  have hci : (if ci then (emptyCaseInsensitive : Multimap α) else empty).caseInsensitive = ci := by
    cases ci <;> rfl
  have hclasses : (ws.foldl write (if ci then emptyCaseInsensitive else empty)).classes =
      (ws.map fun w => keyClass ci w.key).eraseDups := by
    rw [classes_writeAll (by cases ci <;> rfl), hci]
  have hmci : (ws.foldl write (if ci then emptyCaseInsensitive else empty)).caseInsensitive = ci := by
    rw [foldl_write_caseInsensitive, hci]
  refine ⟨hclasses, hclasses ▸ nodup_eraseDups _,
    fun _ vals _ hi => append_entries_of_position?_eq_some hi vals,
    fun _ vals hi => append_entries_of_position?_eq_none hi vals,
    fun _ vals _ hi => replace_entries_of_position?_eq_some hi vals,
    fun _ vals hi => replace_entries_of_position?_eq_none hi vals, fun key => ?_⟩
  rw [get?_eq_lookup, hmci]

/-! ## Runs of appends and of replaces -/

/-- An append past a prefix that the key matches nowhere happens in the rest. -/
theorem appendEntries_append_of_forall_not_keyMatches {ci : Bool} {key : String} {vals : List α}
    {es₁ : List (String × List α)} (es₂ : List (String × List α))
    (h : ∀ e ∈ es₁, keyMatches ci e.1 key = false) :
    appendEntries ci key vals (es₁ ++ es₂) = es₁ ++ appendEntries ci key vals es₂ := by
  induction es₁ with
  | nil => rfl
  | cons e rest ih =>
    have he : keyMatches ci e.1 key = false := h e List.mem_cons_self
    simp [appendEntries, he, ih fun e' he' => h e' (List.mem_cons_of_mem _ he')]

/-- Appending to a key of distinct keys adds the values to that key's entry alone. -/
theorem appendEntries_map_of_mem (f : String → List α) (key : String) (vals : List α)
    {ks : List String} (hnd : ks.Nodup) (hk : key ∈ ks) :
    appendEntries false key vals (ks.map fun k => (k, f k)) =
      ks.map fun k => (k, f k ++ if k = key then vals else []) := by
  induction ks with
  | nil => simp at hk
  | cons k rest ih =>
    obtain ⟨hnew, hrest⟩ := List.nodup_cons.1 hnd
    by_cases hkey : k = key
    · subst hkey
      -- the key is not among the later keys, so they keep their values
      have hlater : ∀ k' ∈ rest, (k', f k' ++ if k' = k then vals else []) = (k', f k') :=
        fun k' hk' => by simp [show k' ≠ k from fun h => hnew (h ▸ hk')]
      simp [appendEntries, keyMatches, keyClass, List.map_congr_left hlater]
    · have hk' : key ∈ rest := (List.mem_cons.1 hk).resolve_left (Ne.symm hkey)
      simp [appendEntries, keyMatches, keyClass, hkey, ih hrest hk']

/-- Appends to an empty exact-key multimap group the values by key: one entry per key,
in the order the keys first come, holding the values of every append to it in order. -/
theorem entries_foldl_append {β : Type} (key : β → String) (vals : β → List α) (xs : List β) :
    (xs.foldl (fun m x => m.append (key x) (vals x)) empty).entries =
      (xs.map key).eraseDups.map fun k => (k, (xs.filter (key · == k)).flatMap vals) := by
  induction xs using List.reverseRecOn with
  | nil => rfl
  | append_singleton xs x ih =>
    have hci : (xs.foldl (fun m x => m.append (key x) (vals x)) (empty : Multimap α)).caseInsensitive
        = false :=
      foldl_invariant (f := fun m x => m.append (key x) (vals x))
        (fun m : Multimap α => m.caseInsensitive = false) (fun _ _ h => h) xs rfl
    rw [List.foldl_append, List.foldl_cons, List.foldl_nil, append_entries, hci, ih,
      List.map_append, List.map_singleton, eraseDups_append_singleton]
    simp only [List.filter_append, List.flatMap_append]
    by_cases hx : key x ∈ xs.map key
    · -- a key seen before: its entry gets the values, the others keep theirs
      rw [if_pos hx, appendEntries_map_of_mem _ _ _ (nodup_eraseDups _) (List.mem_eraseDups.2 hx)]
      refine List.map_congr_left fun k _ => ?_
      by_cases hk : k = key x
      · subst hk
        simp
      · simp [hk, Ne.symm hk]
    · -- a new key: an entry of its own goes last
      have hnew : ∀ e ∈ (xs.map key).eraseDups.map fun k => (k, (xs.filter (key · == k)).flatMap vals),
          keyMatches false e.1 (key x) = false := by
        intro e he
        obtain ⟨k, hk, rfl⟩ := List.mem_map.1 he
        have hne : k ≠ key x := fun h => hx (h ▸ List.mem_eraseDups.1 hk)
        simp [keyMatches, keyClass, hne]
      have hnone : xs.filter (key · == key x) = [] := by
        simpa using fun y hy h => hx (List.mem_map.2 ⟨y, hy, h⟩)
      rw [if_neg hx, appendEntries_of_forall_not_keyMatches hnew, List.map_append]
      congr 1
      · refine List.map_congr_left fun k hk => ?_
        have hne : key x ≠ k := fun h => hx (h ▸ List.mem_eraseDups.1 hk)
        simp [hne]
      · simp [hnone]

/-- After a replace, the first entry of a class is the replaced key's when it matches,
and what it was before otherwise. -/
theorem find?_replaceEntries (ci : Bool) (key k : String) (vals : List α)
    (es : List (String × List α)) :
    (replaceEntries ci key vals es).find? (fun e => keyMatches ci e.1 k) =
      if keyMatches ci key k then some (key, vals) else es.find? fun e => keyMatches ci e.1 k := by
  induction es with
  | nil => by_cases hk : keyMatches ci key k <;> simp [replaceEntries, hk]
  | cons e rest ih =>
    obtain ⟨k0, vs⟩ := e
    by_cases h0 : keyMatches ci k0 key
    · by_cases hk : keyMatches ci key k <;>
        simp [replaceEntries, h0, hk, keyMatches_congr h0 k]
    · by_cases h1 : keyMatches ci k0 k
      · have hk := keyMatches_eq_false_of (Bool.eq_false_iff.2 h0) h1
        simp [replaceEntries, h0, h1, hk]
      · simp [replaceEntries, h0, h1, ih]

/-- After a run of replaces, the first entry of a class is the last replace of the
class, under its spelling, or what it was before the run when no replace had it. -/
theorem find?_foldl_replace {β : Type} (key : β → String) (vals : β → List α) (xs : List β)
    (m : Multimap α) (k : String) :
    (xs.foldl (fun m x => m.replace (key x) (vals x)) m).entries.find?
        (fun e => keyMatches m.caseInsensitive e.1 k) =
      (((xs.filter fun x => keyMatches m.caseInsensitive (key x) k).getLast?.map fun x =>
        (key x, vals x)).or (m.entries.find? fun e => keyMatches m.caseInsensitive e.1 k)) := by
  induction xs using List.reverseRecOn with
  | nil => rfl
  | append_singleton xs x ih =>
    have hci : (xs.foldl (fun m x => m.replace (key x) (vals x)) m).caseInsensitive =
        m.caseInsensitive :=
      foldl_invariant (f := fun m x => m.replace (key x) (vals x))
        (fun m' : Multimap α => m'.caseInsensitive = m.caseInsensitive) (fun _ _ h => h) xs rfl
    rw [List.foldl_append, List.foldl_cons, List.foldl_nil, replace_entries, hci,
      find?_replaceEntries, List.filter_append]
    by_cases hx : keyMatches m.caseInsensitive (key x) k
    · simp [hx]
    · simp [hx, ih]

end Multimap

end HttpBlueprint
