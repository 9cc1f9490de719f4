import Mathlib
import HttpBlueprint.Call.Factory
/-!
# Proof support

Facts the correctness proofs share:

* a bind in `Except` succeeds exactly when both of its steps do, a monadic left
  fold succeeds exactly when each of its steps does, and what every step of a fold
  keeps holds of its result;
* the names a template marks as already encoded are those it had and those marked;
* the entry of a position in a keyed list, and the argument at a position;
* what appending to or replacing a key of a multimap does to its entries: a key
  that is not bound yet goes last, and every entry afterwards comes from an entry
  before or from the write.
-/

namespace HttpBlueprint

/-! ## Computations that can fail -/

/-- A bind in `Except` gives a result exactly when both of its steps do. -/
@[simp] theorem bind_eq_ok {ε α β : Type} {x : Except ε α} {f : α → Except ε β} {b : β} :
    x >>= f = .ok b ↔ ∃ a, x = .ok a ∧ f a = .ok b := by
  cases x with
  | error e => simp [bind, Except.bind]
  | ok a => simp [bind, Except.bind]

@[simp] theorem pure_eq_ok {ε α : Type} {a b : α} : (pure a : Except ε α) = .ok b ↔ a = b := by
  simp [pure, Except.pure]

theorem ok_bind {ε α β : Type} (a : α) (f : α → Except ε β) : (Except.ok a >>= f) = f a := rfl

theorem error_bind {ε α β : Type} (e : ε) (f : α → Except ε β) :
    (Except.error e >>= f) = Except.error e := rfl

/-- A mapped computation gives a result exactly when the computation gives one that
maps to it. -/
@[simp] theorem map_eq_ok {ε α β : Type} {f : α → β} {x : Except ε α} {b : β} :
    f <$> x = .ok b ↔ ∃ a, x = .ok a ∧ f a = b := by
  cases x <;> simp [Functor.map, Except.map]

/-- A monadic left fold over `a :: l` gives a result exactly when its first step
does and the fold over `l` from there does. -/
theorem foldlM_cons_eq_ok {ε α β : Type} {f : β → α → Except ε β} {b r : β} {a : α}
    {l : List α} :
    (a :: l).foldlM f b = .ok r ↔ ∃ b', f b a = .ok b' ∧ l.foldlM f b' = .ok r := by
  simp only [List.foldlM_cons, bind_eq_ok]

/-- What every step of a monadic left fold keeps holds of the fold's result. -/
theorem foldlM_invariant {ε α β : Type} {f : β → α → Except ε β} (P : β → Prop) :
    ∀ {l : List α}, (∀ b a b', a ∈ l → P b → f b a = .ok b' → P b') →
      ∀ {b r : β}, P b → l.foldlM f b = .ok r → P r
  | [], _, _, _, hb, h => by
    simp only [List.foldlM_nil, pure_eq_ok] at h
    exact h ▸ hb
  | a :: rest, hstep, b, _, hb, h => by
    obtain ⟨b', h₁, hrest⟩ := foldlM_cons_eq_ok.1 h
    have hb' : P b' := hstep b a b' List.mem_cons_self hb h₁
    exact foldlM_invariant P (fun c x c' hx => hstep c x c' (List.mem_cons_of_mem a hx)) hb' hrest

/-- What every step of a left fold keeps holds of the fold's result. -/
theorem foldl_invariant {α β : Type} {f : β → α → β} (P : β → Prop)
    (hstep : ∀ b a, P b → P (f b a)) : ∀ (l : List α) {b : β}, P b → P (l.foldl f b)
  | [], _, hb => hb
  | a :: rest, _, hb => foldl_invariant P hstep rest (hstep _ a hb)

/-- Mapping the failure of a computation keeps its result. -/
@[simp] theorem mapError_eq_ok {ε ε' α : Type} {x : Except ε α} {g : ε → ε'} {a : α} :
    x.mapError g = .ok a ↔ x = .ok a := by
  cases x <;> simp [Except.mapError]

/-! ## The first failure of a run

A computation that works through a list of items and stops at its first failure
fails with the fault of the first item that has one. `failureOf x` is the failure of
`x`, if any; saying `failureOf x = l.findSome? fault` says that `x` fails exactly
when an item of `l` has a fault, and then with the first one. Binds join the items
of their two steps, and folds and maps those of their elements. -/

/-- The failure of a computation, if it fails. -/
def failureOf {ε α : Type} : Except ε α → Option ε
  | .error e => some e
  | .ok _ => none

section Failure

variable {ε α β γ : Type}

@[simp] theorem failureOf_ok (a : α) : failureOf (.ok a : Except ε α) = none := rfl

@[simp] theorem failureOf_error (e : ε) : failureOf (.error e : Except ε α) = some e := rfl

@[simp] theorem failureOf_pure (a : α) : failureOf (pure a : Except ε α) = none := rfl

theorem failureOf_eq_some {x : Except ε α} {e : ε} : failureOf x = some e ↔ x = .error e := by
  cases x <;> simp

theorem failureOf_eq_none {x : Except ε α} : failureOf x = none ↔ ∃ a, x = .ok a := by
  cases x <;> simp

@[simp] theorem failureOf_map (f : α → β) (x : Except ε α) : failureOf (f <$> x) = failureOf x := by
  cases x <;> rfl

/-- A bind fails as its first step does, or else as its second, whichever value the first
gives. -/
theorem failureOf_bind_or {x : Except ε α} {f : α → Except ε β} {e : Option ε}
    (hf : ∀ a, x = .ok a → failureOf (f a) = e) : failureOf (x >>= f) = (failureOf x).or e := by
  cases x with
  | error e' => rfl
  | ok a => exact hf a rfl

/-- A bind fails as its first step does, or, when that one succeeds, as its second. -/
theorem failureOf_bind {fault : γ → Option ε} {l₁ l₂ : List γ} {x : Except ε α}
    {f : α → Except ε β} (hx : failureOf x = l₁.findSome? fault)
    (hf : ∀ a, x = .ok a → failureOf (f a) = l₂.findSome? fault) :
    failureOf (x >>= f) = (l₁ ++ l₂).findSome? fault := by
  rw [List.findSome?_append, ← hx]
  exact failureOf_bind_or hf

/-- A bind whose second step cannot fail fails as its first step does. -/
theorem failureOf_bind_of_ok {x : Except ε α} {f : α → Except ε β}
    (hf : ∀ a, x = .ok a → failureOf (f a) = none) : failureOf (x >>= f) = failureOf x := by
  cases x with
  | error e => rfl
  | ok a => exact hf a rfl

/-- A monadic left fold fails at its first failing step, each step failing as the
items it visits say. -/
theorem failureOf_foldlM {step : β → α → Except ε β} (fault : γ → Option ε)
    (visits : α → List γ) :
    ∀ {l : List α}, (∀ b a, a ∈ l → failureOf (step b a) = (visits a).findSome? fault) →
      ∀ b, failureOf (l.foldlM step b) = (l.flatMap visits).findSome? fault
  | [], _, _ => rfl
  | a :: rest, hstep, b => by
    rw [List.foldlM_cons, List.flatMap_cons]
    exact failureOf_bind (hstep b a List.mem_cons_self) fun b' _ =>
      failureOf_foldlM fault visits (fun c x hx => hstep c x (List.mem_cons_of_mem a hx)) b'

/-- A monadic map fails with the failure of its first failing element. -/
theorem failureOf_mapM (f : α → Except ε β) :
    ∀ l : List α, failureOf (l.mapM f) = l.findSome? fun a => failureOf (f a)
  | [] => rfl
  | a :: rest => by
    rw [List.mapM_cons, ← List.singleton_append]
    refine failureOf_bind (by simp) fun b _ => ?_
    rw [failureOf_bind_of_ok fun _ _ => rfl]
    exact failureOf_mapM f rest

/-- A monadic map gives a result exactly when each element gives its own. -/
theorem mapM_eq_ok {f : α → Except ε β} :
    ∀ {l : List α} {bs : List β}, l.mapM f = .ok bs ↔ List.Forall₂ (fun a b => f a = .ok b) l bs
  | [], bs => by
    cases bs <;> simp
  | a :: rest, bs => by
    rw [List.mapM_cons]
    simp only [bind_eq_ok, pure_eq_ok]
    constructor
    · rintro ⟨b, hb, bs', hrest, rfl⟩
      exact .cons hb (mapM_eq_ok.1 hrest)
    · intro h
      cases h with
      | cons hb hrest => exact ⟨_, hb, _, mapM_eq_ok.2 hrest, rfl⟩

end Failure

/-! ## Names marked as already encoded -/

theorem mem_insertName {n m : String} {l : List String} :
    n ∈ insertName m l ↔ n = m ∨ n ∈ l := by
  induction l with
  | nil => simp [insertName]
  | cons x rest ih =>
    unfold insertName
    by_cases hx : m = x
    · subst hx
      simp
    · by_cases hlt : m < x
      · simp [hx, hlt]
      · simp only [hx, hlt, if_false, List.mem_cons, ih]
        tauto

theorem mem_foldl_insertName {n : String} (names acc : List String) :
    n ∈ names.foldl (fun acc m => insertName m acc) acc ↔ n ∈ names ∨ n ∈ acc := by
  induction names generalizing acc with
  | nil => simp
  | cons m rest ih =>
    simp only [List.foldl_cons, ih, mem_insertName, List.mem_cons]
    tauto

namespace Template

/-- After marking, a name is already encoded when it was marked or was already. -/
@[simp] theorem mem_markEncoded {t : Template} {names : List String} {n : String} :
    n ∈ (t.markEncoded names).alreadyEncoded ↔ n ∈ names ∨ n ∈ t.alreadyEncoded :=
  mem_foldl_insertName names t.alreadyEncoded

@[simp] theorem markEncoded_path (t : Template) (names : List String) :
    (t.markEncoded names).path = t.path := rfl

@[simp] theorem markEncoded_queries (t : Template) (names : List String) :
    (t.markEncoded names).queries = t.queries := rfl

@[simp] theorem withTarget_path (t : Template) (s : String) : (t.withTarget s).path = t.path := rfl

@[simp] theorem withTarget_queries (t : Template) (s : String) :
    (t.withTarget s).queries = t.queries := rfl

@[simp] theorem withTarget_alreadyEncoded (t : Template) (s : String) :
    (t.withTarget s).alreadyEncoded = t.alreadyEncoded := rfl

end Template

/-! ## Keyed lists -/

theorem entryAt?_eq_none_of_isEmpty {α : Type} {xs : List (Nat × α)} (h : xs.isEmpty = true)
    (k : Nat) : entryAt? k xs = none := by
  rw [List.isEmpty_iff.1 h]
  rfl

/-- Reading an argument gives the value at its position, when there is one. -/
theorem argument_eq_ok {argv : List Value} {i : Nat} {v : Value} :
    argument argv i = .ok v ↔ argv[i]? = some v := by
  unfold argument
  cases argv[i]? <;> simp

/-! ## Multimap entries -/

namespace Multimap

variable {α : Type}

/-- Appending to a key that no entry matches adds one entry at the end. -/
theorem appendEntries_of_forall_not_keyMatches {ci : Bool} {key : String} {vals : List α}
    {es : List (String × List α)} (h : ∀ e ∈ es, keyMatches ci e.1 key = false) :
    appendEntries ci key vals es = es ++ [(key, vals)] := by
  induction es with
  | nil => rfl
  | cons e rest ih =>
    obtain ⟨k, vs⟩ := e
    have hk : keyMatches ci k key = false := h (k, vs) (by simp)
    simp only [appendEntries, hk, Bool.false_eq_true, if_false, List.cons_append]
    rw [ih fun e he => h e (List.mem_cons_of_mem _ he)]

/-- A value of an entry after an append was bound before under the same key, or
is one of the appended values under a key that matches. -/
theorem mem_appendEntries {ci : Bool} {key k : String} {vals vs : List α}
    {es : List (String × List α)} {v : α} (he : (k, vs) ∈ appendEntries ci key vals es)
    (hv : v ∈ vs) :
    (∃ vs₀, (k, vs₀) ∈ es ∧ v ∈ vs₀) ∨ (keyMatches ci k key = true ∧ v ∈ vals) := by
  induction es with
  | nil =>
    simp only [appendEntries, List.mem_singleton, Prod.mk.injEq] at he
    obtain ⟨rfl, rfl⟩ := he
    exact .inr ⟨by simp [keyMatches], hv⟩
  | cons e rest ih =>
    obtain ⟨k₀, vs₀⟩ := e
    unfold appendEntries at he
    split at he
    · rename_i hmatch
      simp only [List.mem_cons, Prod.mk.injEq] at he
      rcases he with ⟨rfl, rfl⟩ | he
      · rcases List.mem_append.1 hv with hv | hv
        · exact .inl ⟨vs₀, by simp, hv⟩
        · exact .inr ⟨hmatch, hv⟩
      · exact .inl ⟨vs, by simp [he], hv⟩
    · rcases List.mem_cons.1 he with he | he
      · exact .inl ⟨vs, by simp [he], hv⟩
      · rcases ih he with ⟨vs', hmem, hv'⟩ | hnew
        · exact .inl ⟨vs', List.mem_cons_of_mem _ hmem, hv'⟩
        · exact .inr hnew

/-- An entry after a replace was there before, or is the written key and values. -/
theorem mem_replaceEntries {ci : Bool} {key k : String} {vals vs : List α}
    {es : List (String × List α)} (he : (k, vs) ∈ replaceEntries ci key vals es) :
    (k, vs) ∈ es ∨ (k = key ∧ vs = vals) := by
  induction es with
  | nil => simpa [replaceEntries] using he
  | cons e rest ih =>
    obtain ⟨k₀, vs₀⟩ := e
    unfold replaceEntries at he
    split at he
    · simp only [List.mem_cons, Prod.mk.injEq] at he
      rcases he with ⟨rfl, rfl⟩ | he
      · exact .inr ⟨rfl, rfl⟩
      · exact .inl (List.mem_cons_of_mem _ he)
    · rcases List.mem_cons.1 he with he | he
      · exact .inl (by simp [he])
      · rcases ih he with hmem | hnew
        · exact .inl (List.mem_cons_of_mem _ hmem)
        · exact .inr hnew

end Multimap

end HttpBlueprint
