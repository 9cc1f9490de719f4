import HttpBlueprint.Proofs.Missing
/-!
# Cutting and expanding a template text

A template text is cut into literals and placeholders as the scanner reads it
(`Segment.Cut`): the literal up to the first `{`, the placeholder's text from there up to
the first `}` after it (a text that may itself hold `{` or `:`), and the rest cut the
same way; once no `{` has a `}` after it, what remains, an unclosed `{` included, is the
last literal. Every text has a cut (`exists_cut`), and the scanner's segments are those
of the cut (`scanFrom_of_cut`).

Expanding a cut text looks the placeholders' names up in order and ends with the first
look-up that fails or gives nothing, giving that answer; otherwise it writes each
literal through the literal writer and each placeholder as the text its look-up gave
(`expandSegments_ofCut`). The look-ups made are the names up to and including that first
one, and the answer depends on the look-up at those names only. A body template, whose
literal writer turns `%7B` and `%7D` into braces, therefore decodes its literals only:
every value is inserted as it renders, and a decoded brace never opens a placeholder.
-/

namespace HttpBlueprint

namespace Segment

/-! ## Cuts -/

/-- Whether no `{` of a text has a `}` after it, so that the text holds no placeholder. -/
def NoHole (s : List Char) : Prop := ∀ a b, s = a ++ '{' :: b → '}' ∉ b

/-- `Cut s first holes`: the text `s` cut as the scanner reads it. `first` is the literal
before the first placeholder, and `holes` pairs each placeholder's text with the literal
after it. A literal before a placeholder holds no `{`, a placeholder's text runs up to
the first `}`, and the last literal is the rest once it holds no placeholder. -/
inductive Cut : List Char → List Char → List (List Char × List Char) → Prop
  | last {s : List Char} (hs : NoHole s) : Cut s s []
  | hole {lit body rest next : List Char} {holes : List (List Char × List Char)}
      (hlit : '{' ∉ lit) (hbody : '}' ∉ body) (hrest : Cut rest next holes) :
      Cut (lit ++ '{' :: (body ++ '}' :: rest)) lit ((body, next) :: holes)

/-- The segments of a cut: its first literal, then each placeholder and the literal after
it. -/
def ofCut (first : List Char) (holes : List (List Char × List Char)) : List Segment :=
  .literal first :: holes.flatMap fun h => [.hole h.1, .literal h.2]

@[simp] theorem ofCut_nil (first : List Char) : ofCut first [] = [.literal first] := rfl

theorem ofCut_cons (first : List Char) (h : List Char × List Char)
    (holes : List (List Char × List Char)) :
    ofCut first (h :: holes) = .literal first :: .hole h.1 :: ofCut h.2 holes := rfl

/-- The names of a cut's placeholders, in order. -/
def cutNames (holes : List (List Char × List Char)) : List String :=
  holes.map fun h => holeName (String.ofList h.1)

@[simp] theorem holeNames_ofCut (first : List Char) :
    ∀ holes : List (List Char × List Char), holeNames (ofCut first holes) = cutNames holes
  | [] => rfl
  | h :: holes => by
    rw [ofCut_cons, holeNames_literal, holeNames_hole, holeNames_ofCut h.2 holes]
    rfl

/-- A text either lacks a character or splits at its first occurrence. -/
theorem not_mem_or_split_first (c : Char) :
    ∀ s : List Char, c ∉ s ∨ ∃ a b, c ∉ a ∧ s = a ++ c :: b
  | [] => .inl List.not_mem_nil
  | x :: s => by
    by_cases hx : x = c
    · exact .inr ⟨[], s, List.not_mem_nil, by simp [hx]⟩
    · rcases not_mem_or_split_first c s with hno | ⟨a, b, ha, rfl⟩
      · exact .inl (by simp [Ne.symm hx, hno])
      · exact .inr ⟨x :: a, b, by simp [Ne.symm hx, ha], rfl⟩

/-- After the first `{` of a text, any `{` of it opens a part of what follows the first. -/
theorem suffix_of_first_brace {b b' : List Char} :
    ∀ {a a' : List Char}, '{' ∉ a → a ++ '{' :: b = a' ++ '{' :: b' → b' <:+ b
  | [], [], _, h => by simp_all
  | [], _ :: a', _, h => by
    simp only [List.nil_append, List.cons_append, List.cons.injEq] at h
    rw [h.2]
    exact List.suffix_append_of_suffix (List.suffix_cons _ _)
  | x :: a, [], ha, h => by
    simp only [List.cons_append, List.nil_append, List.cons.injEq] at h
    exact absurd (h.1 ▸ List.mem_cons_self) ha
  | x :: a, _ :: a', ha, h => by
    simp only [List.cons_append, List.cons.injEq] at h
    exact suffix_of_first_brace (fun hmem => ha (List.mem_cons_of_mem x hmem)) h.2

theorem noHole_of_not_mem {s : List Char} (hs : '{' ∉ s) : NoHole s := by
  rintro a b rfl -
  exact hs (by simp)

/-- A text whose first `{` has no `}` after it holds no placeholder. -/
theorem noHole_of_unclosed {a b : List Char} (ha : '{' ∉ a) (hb : '}' ∉ b) :
    NoHole (a ++ '{' :: b) := by
  intro a' b' h hclose
  exact hb ((suffix_of_first_brace ha h).subset hclose)

/-- Every text has a cut: cut it at its first `{` and at the first `}` after that, then
cut the rest, which is shorter. -/
theorem exists_cut (s : List Char) : ∃ first holes, Cut s first holes := by
  rcases not_mem_or_split_first '{' s with hno | ⟨lit, after, hlit, rfl⟩
  · exact ⟨s, [], .last (noHole_of_not_mem hno)⟩
  · rcases not_mem_or_split_first '}' after with hno | ⟨body, rest, hbody, rfl⟩
    · exact ⟨_, [], .last (noHole_of_unclosed hlit hno)⟩
    · obtain ⟨next, holes, hrest⟩ := exists_cut rest
      exact ⟨lit, (body, next) :: holes, .hole hlit hbody hrest⟩
termination_by s.length
decreasing_by subst_vars; simp only [List.length_append, List.length_cons]; omega

/-! ## The scanner reads the cut -/

/-- Outside a placeholder, characters other than `{` join the literal. -/
theorem scanFrom_literal (rest : List Char) :
    ∀ {lit : List Char} (acc : List Char), '{' ∉ lit →
      scanFrom (lit ++ rest) acc none = scanFrom rest (acc ++ lit) none
  | [], acc, _ => by rw [List.nil_append, List.append_nil]
  | c :: lit, acc, h => by
    have hc : (c == '{') = false := by
      simpa using fun hc : c = '{' => h (hc ▸ List.mem_cons_self)
    rw [List.cons_append, scanFrom, hc, if_neg Bool.false_ne_true,
      scanFrom_literal rest (acc ++ [c]) fun hmem => h (List.mem_cons_of_mem c hmem)]
    simp

/-- A text that holds no placeholder is one literal. -/
theorem scanFrom_of_noHole {s : List Char} (hs : NoHole s) (acc : List Char) :
    scanFrom s acc none = [.literal (acc ++ s)] := by
  rcases not_mem_or_split_first '{' s with hno | ⟨a, b, ha, rfl⟩
  · have h := scanFrom_literal [] acc hno
    rw [List.append_nil] at h
    rw [h]
    rfl
  · -- the first `{` opens a placeholder that the end of the text leaves unclosed
    have hb : ∀ c ∈ b, c ≠ '}' := fun c hc hclose => hs a b rfl (hclose ▸ hc)
    have h := scanFrom_inside_hole (acc ++ a) [] b [] hb
    rw [List.append_nil, List.nil_append] at h
    rw [scanFrom_literal _ acc ha, scanFrom, if_pos (beq_self_eq_true '{'), h]
    simp [scanFrom]

/-- The scanner gives the segments of a cut, its first literal after what was read. -/
theorem scanFrom_of_cut {s first : List Char} {holes : List (List Char × List Char)}
    (h : Cut s first holes) (acc : List Char) :
    scanFrom s acc none = ofCut (acc ++ first) holes := by
  induction h generalizing acc with
  | last hs => exact scanFrom_of_noHole hs acc
  | @hole lit body rest next holes hlit hbody _ ih =>
    have hinside := scanFrom_inside_hole (acc ++ lit) [] body ('}' :: rest)
      fun c hc hclose => hbody (hclose ▸ hc)
    rw [scanFrom_literal _ acc hlit, scanFrom, if_pos (beq_self_eq_true '{'), hinside,
      List.nil_append, scanFrom, if_pos (beq_self_eq_true '}'), ih [], List.nil_append]
    rfl

theorem scan_of_cut {s : String} {first : List Char} {holes : List (List Char × List Char)}
    (h : Cut s.toList first holes) : scan s = ofCut first holes :=
  scanFrom_of_cut h []

/-! ## What an expansion gives -/

/-- The answer of a look-up that ends an expansion: a failure, or nothing. -/
def stopOf : Except Error (Option String) → Option (Except Error (Option String))
  | .ok (some _) => none
  | r => some r

/-- The text a look-up gives, if it gives one. -/
def textOf : Except Error (Option String) → String
  | .ok (some t) => t
  | _ => ""

/-- What expanding a cut text gives: the answer of the first placeholder, in order, whose
look-up fails or gives nothing; else every literal written through `literal`, each
placeholder replaced by the text its look-up gives. -/
def cutExpansion (lookup : String → Except Error (Option String)) (literal : String → String)
    (first : List Char) (holes : List (List Char × List Char)) : Except Error (Option String) :=
  (holes.findSome? fun h => stopOf (lookup (holeName (String.ofList h.1)))).getD
    (.ok (some (literal (String.ofList first) ++ String.join (holes.map fun h =>
      textOf (lookup (holeName (String.ofList h.1))) ++ literal (String.ofList h.2)))))

/-- The names an expansion looks up, in order: those of its placeholders up to and
including the first whose look-up fails or gives nothing. -/
def lookupsMade (lookup : String → Except Error (Option String))
    (holes : List (List Char × List Char)) : List String :=
  holesThrough (fun n => (stopOf (lookup n)).isSome) (cutNames holes)

/-- An answer that ends an expansion is kept by whatever the expansion would have done
with a text. -/
theorem map_of_stopOf {r₀ r : Except Error (Option String)} (h : stopOf r₀ = some r)
    (g : String → String) : Option.map g <$> r = r := by
  match r₀, h with
  | .error e, h => cases h; rfl
  | .ok none, h => cases h; rfl

section Expand

variable {lookup : String → Except Error (Option String)} {literal : String → String}

theorem expandSegments_literal (text : List Char) (rest : List Segment) :
    expandSegments lookup literal (.literal text :: rest) =
      Option.map (literal (String.ofList text) ++ ·) <$> expandSegments lookup literal rest := by
  rw [expandSegments]
  cases expandSegments lookup literal rest with
  | error e => rfl
  | ok r => cases r <;> rfl

/-- A placeholder whose look-up gives a text is followed by the rest's expansion. -/
theorem expandSegments_hole_of_text {body : List Char} {x : String}
    (h : lookup (holeName (String.ofList body)) = .ok (some x)) (rest : List Segment) :
    expandSegments lookup literal (.hole body :: rest) =
      Option.map (x ++ ·) <$> expandSegments lookup literal rest := by
  rw [expandSegments, h, ok_bind]
  cases expandSegments lookup literal rest with
  | error e => rfl
  | ok r => cases r <;> rfl

/-- A placeholder whose look-up fails or gives nothing ends the expansion with that
answer. -/
theorem expandSegments_hole_of_stop {body : List Char} {r : Except Error (Option String)}
    (h : stopOf (lookup (holeName (String.ofList body))) = some r) (rest : List Segment) :
    expandSegments lookup literal (.hole body :: rest) = r := by
  rw [expandSegments]
  revert h
  cases lookup (holeName (String.ofList body)) with
  | error e => intro h; cases h; rfl
  | ok found =>
    cases found with
    | none => intro h; cases h; rfl
    | some x => intro h; cases h

/-- Expanding the segments of a cut gives what the cut says. -/
theorem expandSegments_ofCut (lookup : String → Except Error (Option String))
    (literal : String → String) :
    ∀ (first : List Char) (holes : List (List Char × List Char)),
      expandSegments lookup literal (ofCut first holes) = cutExpansion lookup literal first holes
  | first, [] => by
    rw [ofCut_nil, expandSegments_literal]
    simp [expandSegments, cutExpansion]
  | first, (body, next) :: holes => by
    rw [ofCut_cons, expandSegments_literal]
    cases hstop : stopOf (lookup (holeName (String.ofList body))) with
    | some r =>
      -- this placeholder ends the expansion, with or without the literal before it
      rw [expandSegments_hole_of_stop hstop, map_of_stopOf hstop, cutExpansion,
        List.findSome?_cons, hstop]
      rfl
    | none =>
      obtain ⟨x, hx⟩ : ∃ x, lookup (holeName (String.ofList body)) = .ok (some x) := by
        revert hstop
        cases lookup (holeName (String.ofList body)) with
        | error e => intro h; cases h
        | ok found => cases found with
          | none => intro h; cases h
          | some x => intro _; exact ⟨x, rfl⟩
      rw [expandSegments_hole_of_text hx, expandSegments_ofCut lookup literal next holes]
      unfold cutExpansion
      rw [List.findSome?_cons, hstop]
      dsimp only
      cases hrest : holes.findSome? fun h => stopOf (lookup (holeName (String.ofList h.1))) with
      | some r =>
        -- a later placeholder ends the expansion
        obtain ⟨h, -, hr⟩ := List.exists_of_findSome?_eq_some hrest
        rw [Option.getD_some, Option.getD_some, map_of_stopOf hr, map_of_stopOf hr]
      | none =>
        simp [List.map_cons, String.join_cons, hx, textOf, String.append_assoc]

/-- The answer of an expansion depends on the look-up only at the names it looks up. -/
theorem expandSegments_congr {other : String → Except Error (Option String)}
    (literal : String → String) :
    ∀ segs : List Segment,
      (∀ n ∈ holesThrough (fun n => (stopOf (lookup n)).isSome) (holeNames segs),
        other n = lookup n) →
      expandSegments other literal segs = expandSegments lookup literal segs
  | [], _ => rfl
  | .literal text :: rest, h => by
    rw [expandSegments_literal, expandSegments_literal, expandSegments_congr literal rest h]
  | .hole body :: rest, h => by
    have hsame : other (holeName (String.ofList body)) = lookup (holeName (String.ofList body)) :=
      h _ (by simp [holesThrough])
    cases hstop : stopOf (lookup (holeName (String.ofList body))) with
    | some r =>
      rw [expandSegments_hole_of_stop hstop, expandSegments_hole_of_stop (hsame ▸ hstop)]
    | none =>
      obtain ⟨x, hx⟩ : ∃ x, lookup (holeName (String.ofList body)) = .ok (some x) := by
        revert hstop
        cases lookup (holeName (String.ofList body)) with
        | error e => intro h; cases h
        | ok found => cases found with
          | none => intro h; cases h
          | some x => intro _; exact ⟨x, rfl⟩
      -- the look-up gives a text, so the expansion looks up the rest's names next
      have hrest : ∀ n ∈ holesThrough (fun n => (stopOf (lookup n)).isSome) (holeNames rest),
          other n = lookup n := fun n hn => h n (by simp [holesThrough, hstop, hn])
      rw [expandSegments_hole_of_text hx, expandSegments_hole_of_text (hsame ▸ hx),
        expandSegments_congr literal rest hrest]

end Expand

/-! ## Body templates -/

/-- A body template whose placeholders are all bound is its literals decoded, with the
rendering of each placeholder's value inserted as it is. -/
theorem expandBody_of_cut {s : String} {first : List Char} {holes : List (List Char × List Char)}
    (h : Cut s.toList first holes) {vars : Variables}
    (hbound : ∀ n ∈ cutNames holes, (vars.get? n).isSome) :
    expandBody s vars = .ok (String.ofList (unescapeBraces first) ++ String.join (holes.map fun h =>
      renderedText vars (holeName (String.ofList h.1)) ++ String.ofList (unescapeBraces h.2))) := by
  -- every look-up gives the rendering of a bound value, so none ends the expansion
  have hlook : ∀ n ∈ cutNames holes, (do let v ← lookupVar vars n; pure (some (v.render.getD "")) :
      Except Error (Option String)) = .ok (some (renderedText vars n)) := by
    intro n hn
    obtain ⟨v, hv⟩ := Option.isSome_iff_exists.1 (hbound n hn)
    simp [lookupVar, hv, renderedText]
  have hnone : (holes.findSome? fun h => stopOf ((do
      let v ← lookupVar vars (holeName (String.ofList h.1)); pure (some (v.render.getD ""))) :
        Except Error (Option String))) = none := by
    refine List.findSome?_eq_none_iff.2 fun h hh => ?_
    rw [hlook _ (List.mem_map_of_mem hh)]
    rfl
  unfold expandBody expandText
  rw [scan_of_cut h, expandSegments_ofCut, cutExpansion, hnone, Option.getD_none, ok_bind]
  simp only [Option.getD_some, String.toList_ofList]
  refine congrArg (fun t => Except.ok (_ ++ String.join t)) (List.map_congr_left fun h hh => ?_)
  rw [hlook _ (List.mem_map_of_mem hh)]
  rfl

end Segment

open Segment

/-! ## The scanner's contract -/

/-- **The placeholder scanner's contract.** Every template text has a cut. For its cut,
expanding the text through any look-up and literal writer looks the placeholders' names
up in order, ends with the answer of the first look-up that fails or gives nothing, and
otherwise writes every literal through the writer with each placeholder's text between;
the answer depends on the look-up only at the names looked up. A body template decodes its
literals only: when every placeholder is bound, its body is the decoded literals with the
rendering of each value inserted as it is. -/
theorem expandText_follows_cut (s : String) (lookup : String → Except Error (Option String))
    (literal : String → String) :
    (∃ first holes, Cut s.toList first holes) ∧
      ∀ first holes, Cut s.toList first holes →
        expandText s lookup literal = cutExpansion lookup literal first holes ∧
        (∀ other : String → Except Error (Option String),
          (∀ n ∈ lookupsMade lookup holes, other n = lookup n) →
            expandText s other literal = expandText s lookup literal) ∧
        ∀ vars : Variables, (∀ n ∈ cutNames holes, (vars.get? n).isSome) →
          expandBody s vars = .ok (String.ofList (unescapeBraces first) ++
            String.join (holes.map fun h =>
              renderedText vars (holeName (String.ofList h.1)) ++ String.ofList (unescapeBraces h.2)))
    := by
  refine ⟨exists_cut s.toList, fun first holes h => ⟨?_, fun other hother => ?_,
    fun vars hbound => expandBody_of_cut h hbound⟩⟩
  · rw [expandText, scan_of_cut h, expandSegments_ofCut]
  · unfold expandText
    rw [scan_of_cut h]
    exact expandSegments_congr literal _ (by simpa [lookupsMade] using hother)

/-- The text `a{x:p}b{c`: one placeholder `x:p`, then a literal with an unclosed brace. -/
theorem expandText_follows_cut_unclosed :
    Cut (String.ofList ['a', '{', 'x', ':', 'p', '}', 'b', '{', 'c']).toList ['a']
        [(['x', ':', 'p'], ['b', '{', 'c'])] ∧
      expandText (String.ofList ['a', '{', 'x', ':', 'p', '}', 'b', '{', 'c'])
          (fun n => .ok (some n)) id =
        cutExpansion (fun n => .ok (some n)) id ['a'] [(['x', ':', 'p'], ['b', '{', 'c'])] := by
  have hcut : Cut (String.ofList ['a', '{', 'x', ':', 'p', '}', 'b', '{', 'c']).toList ['a']
      [(['x', ':', 'p'], ['b', '{', 'c'])] := by
    rw [String.toList_ofList]
    exact @Cut.hole ['a'] ['x', ':', 'p'] _ _ _ (by decide) (by decide)
      (.last (noHole_of_unclosed (a := ['b']) (b := ['c']) (by decide) (by decide)))
  exact ⟨hcut, ((expandText_follows_cut _ _ id).2 _ _ hcut).1⟩

end HttpBlueprint
