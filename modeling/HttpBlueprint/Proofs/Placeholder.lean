import HttpBlueprint.Proofs.Basic
import HttpBlueprint.Template.Resolve
/-!
# Filling placeholders

`Segment.fillHoles` writes the segments of a template text with every hole replaced
by a text chosen for its name. Expanding a text through a look-up that can fail or
give nothing is filling, seen from outside: when the expansion gives a text, every
hole's look-up gave one and the text is the segments filled with them; when it
gives nothing, some hole's look-up gave nothing.

From this follow the laws of the three expansions a template uses: a path fills
every placeholder with its rendering, percent-encoded unless the name is already
encoded; a query or header value gives one value per rendered item when it is a
single placeholder bound to a list, and otherwise none as soon as one placeholder
renders to nothing, else the filled text; a body template fills every placeholder
with its rendering or the empty text.
-/

namespace HttpBlueprint

namespace Segment

/-- The text of segments with each literal written through `literal` and each hole
replaced by `hole` of its name. -/
def fillHoles (literal : String → String) (hole : String → String) : List Segment → String
  | [] => ""
  | .literal text :: rest => literal (String.ofList text) ++ fillHoles literal hole rest
  | .hole body :: rest => hole (holeName (String.ofList body)) ++ fillHoles literal hole rest

/-- The names of the holes, in order. -/
def holeNames : List Segment → List String
  | [] => []
  | .literal _ :: rest => holeNames rest
  | .hole body :: rest => holeName (String.ofList body) :: holeNames rest

@[simp] theorem holeNames_nil : holeNames [] = [] := rfl

@[simp] theorem holeNames_literal (text : List Char) (rest : List Segment) :
    holeNames (.literal text :: rest) = holeNames rest := rfl

@[simp] theorem holeNames_hole (body : List Char) (rest : List Segment) :
    holeNames (.hole body :: rest) = holeName (String.ofList body) :: holeNames rest := rfl

/-! ## Scanning a single placeholder -/

/-- Inside a hole, characters other than `}` join the hole's text. -/
theorem scanFrom_inside_hole (lit body : List Char) :
    ∀ (cs rest : List Char), (∀ c ∈ cs, c ≠ '}') →
      scanFrom (cs ++ rest) lit (some body) = scanFrom rest lit (some (body ++ cs))
  | [], rest, _ => by simp
  | c :: cs, rest, h => by
    have hc : (c == '}') = false := by simpa using h c (by simp)
    rw [List.cons_append, scanFrom, hc, if_neg Bool.false_ne_true,
      scanFrom_inside_hole lit (body ++ [c]) cs rest fun d hd => h d (by simp [hd])]
    simp

/-- A text that is a single placeholder scans to one hole between empty literals. -/
theorem scan_of_singleHole? {s n : String} (h : singleHole? s = some n) :
    ∃ body, scan s = [.literal [], .hole body, .literal []] ∧ holeName (String.ofList body) = n := by
  unfold singleHole? at h
  split at h
  · rename_i rest hs
    split at h
    · rename_i body hrev
      dsimp only at h
      split at h
      · cases h
      · rename_i hbraces
        -- the text is `{`, then a body holding no `}`, then `}`: one hole, no literal text
        refine ⟨body.reverse, ?_, Option.some.inj h⟩
        have hrest : rest = body.reverse ++ ['}'] := by
          rw [← List.reverse_reverse rest, hrev]
          simp
        have hinner : ∀ c ∈ body.reverse, c ≠ '}' := by
          intro c hc hclose
          apply hbraces
          exact List.any_eq_true.2 ⟨c, hc, by simp [hclose]⟩
        unfold scan
        rw [hs, hrest, scanFrom, if_pos (beq_self_eq_true '{'), scanFrom_inside_hole _ _ _ _ hinner]
        simp [scanFrom]
    · cases h
  · cases h

end Segment

open Segment

/-! ## Expanding segments -/

section Expand

variable {lookup : String → Except Error (Option String)} {literal : String → String}

theorem expandSegments_literal_eq_ok {text : List Char} {rest : List Segment}
    {r : Option String} :
    expandSegments lookup literal (.literal text :: rest) = .ok r ↔
      ∃ r', expandSegments lookup literal rest = .ok r' ∧
        r = r'.map (literal (String.ofList text) ++ ·) := by
  simp only [expandSegments, bind_eq_ok]
  constructor
  · rintro ⟨r', hr', hr⟩
    refine ⟨r', hr', ?_⟩
    cases r' <;> simp only [pure_eq_ok] at hr <;> simp [← hr]
  · rintro ⟨r', hr', rfl⟩
    exact ⟨r', hr', by cases r' <;> rfl⟩

theorem expandSegments_hole_eq_ok {body : List Char} {rest : List Segment}
    {r : Option String} :
    expandSegments lookup literal (.hole body :: rest) = .ok r ↔
      (lookup (holeName (String.ofList body)) = .ok none ∧ r = none) ∨
      ∃ x r', lookup (holeName (String.ofList body)) = .ok (some x) ∧
        expandSegments lookup literal rest = .ok r' ∧ r = r'.map (x ++ ·) := by
  simp only [expandSegments, bind_eq_ok]
  constructor
  · rintro ⟨found, hfound, hr⟩
    -- a hole whose look-up gives nothing ends the expansion with nothing
    cases found with
    | none => exact .inl ⟨hfound, (pure_eq_ok.1 hr).symm⟩
    | some x =>
      obtain ⟨r', hr', hr⟩ := bind_eq_ok.1 hr
      refine .inr ⟨x, r', hfound, hr', ?_⟩
      cases r' <;> simp only [pure_eq_ok] at hr <;> simp [← hr]
  · rintro (⟨hfound, rfl⟩ | ⟨x, r', hfound, hr', rfl⟩)
    · exact ⟨none, hfound, rfl⟩
    · exact ⟨some x, hfound, bind_eq_ok.2 ⟨r', hr', by cases r' <;> rfl⟩⟩

/-- An expansion that gives a text looked up a text for every hole. -/
theorem lookup_of_expandSegments_eq_some :
    ∀ {segs : List Segment} {s : String}, expandSegments lookup literal segs = .ok (some s) →
      ∀ n ∈ holeNames segs, ∃ x, lookup n = .ok (some x)
  | [], _, _ => by simp
  | .literal _ :: rest, s, h => by
    obtain ⟨r', hr', hr⟩ := expandSegments_literal_eq_ok.1 h
    cases r' with
    | none => cases hr
    | some tail => simpa using lookup_of_expandSegments_eq_some hr'
  | .hole body :: rest, s, h => by
    rcases expandSegments_hole_eq_ok.1 h with ⟨-, hr⟩ | ⟨x, r', hfound, hr', hr⟩
    · cases hr
    · cases r' with
      | none => cases hr
      | some tail =>
        intro n hn
        rcases List.mem_cons.1 hn with rfl | hn
        · exact ⟨x, hfound⟩
        · exact lookup_of_expandSegments_eq_some hr' n hn

/-- When every hole's look-up gives a text, the expansion gives the filled text. -/
theorem expandSegments_eq_fillHoles (hole : String → String) :
    ∀ {segs : List Segment}, (∀ n ∈ holeNames segs, lookup n = .ok (some (hole n))) →
      expandSegments lookup literal segs = .ok (some (fillHoles literal hole segs))
  | [], _ => rfl
  | .literal text :: rest, h => by
    rw [expandSegments_literal_eq_ok]
    exact ⟨_, expandSegments_eq_fillHoles hole (by simpa using h), rfl⟩
  | .hole body :: rest, h => by
    rw [expandSegments_hole_eq_ok]
    refine .inr ⟨_, _, h _ (by simp),
      expandSegments_eq_fillHoles hole fun n hn => h n (by simp [hn]), rfl⟩

/-- An expansion that gives a text gave the filling through what each hole's look-up
gave. -/
theorem eq_fillHoles_of_expandSegments_eq_some (hole : String → String) {segs : List Segment}
    {t : String} (h : expandSegments lookup literal segs = .ok (some t))
    (hhole : ∀ n ∈ holeNames segs, lookup n = .ok (some (hole n))) :
    t = fillHoles literal hole segs := by
  have heq := h.symm.trans (expandSegments_eq_fillHoles hole hhole)
  exact Option.some.inj (Except.ok.inj heq)

/-- An expansion that gives nothing had a hole whose look-up gave nothing. -/
theorem exists_lookup_none_of_expandSegments_eq_none :
    ∀ {segs : List Segment}, expandSegments lookup literal segs = .ok none →
      ∃ n ∈ holeNames segs, lookup n = .ok none
  | [], h => by cases h
  | .literal _ :: rest, h => by
    obtain ⟨r', hr', hr⟩ := expandSegments_literal_eq_ok.1 h
    cases r' with
    | none => simpa using exists_lookup_none_of_expandSegments_eq_none hr'
    | some _ => cases hr
  | .hole body :: rest, h => by
    rcases expandSegments_hole_eq_ok.1 h with ⟨hfound, -⟩ | ⟨x, r', hfound, hr', hr⟩
    · exact ⟨_, by simp, hfound⟩
    · cases r' with
      | none =>
        obtain ⟨n, hn, hnone⟩ := exists_lookup_none_of_expandSegments_eq_none hr'
        exact ⟨n, by simp [hn], hnone⟩
      | some _ => cases hr

end Expand

/-! ## Renderings -/

/-- The rendering of the value bound to a name, or the empty text. -/
def renderedText (vars : Variables) (n : String) : String :=
  ((vars.get? n).bind Value.render).getD ""

/-- Whether a name is bound to a value that renders to nothing. -/
def rendersNothing (vars : Variables) (n : String) : Bool :=
  (vars.get? n).any fun v => v.render.isNone

/-- A list renders item by item, dropping the items that render to nothing. -/
theorem renderItems_eq_filterMap (items : List Value) :
    Value.renderItems items = items.filterMap Value.render := by
  induction items with
  | nil => rfl
  | cons v rest ih =>
    rw [Value.renderItems]
    cases h : v.render <;> simp [h, ih]

theorem lookupVar_eq_ok {vars : Variables} {n : String} {v : Value} :
    lookupVar vars n = .ok v ↔ vars.get? n = some v := by
  unfold lookupVar
  cases vars.get? n <;> simp

/-- The look-up of a query or header value: the bound value's rendering, through `enc`. -/
theorem renderLookup_eq_ok {vars : Variables} {enc : String → String → String} {n : String}
    {r : Option String} :
    (do let v ← lookupVar vars n; pure (v.render.map (enc n)) : Except Error (Option String)) =
        .ok r ↔
      ∃ v, vars.get? n = some v ∧ r = v.render.map (enc n) := by
  simp only [bind_eq_ok, pure_eq_ok, lookupVar_eq_ok]
  constructor
  · rintro ⟨v, hv, hr⟩
    exact ⟨v, hv, hr.symm⟩
  · rintro ⟨v, hv, hr⟩
    exact ⟨v, hv, hr.symm⟩

/-- A text filled through renderings: nothing as soon as one of its placeholders renders
to nothing, else the text with every placeholder replaced by its rendering through
`enc`. -/
def filledText? (vars : Variables) (enc : String → String → String) (segs : List Segment) :
    Option String :=
  if (holeNames segs).any (rendersNothing vars) then none
  else some (fillHoles id (fun n => enc n (renderedText vars n)) segs)

/-- Expanding through renderings is filling: the look-up stops at the first
placeholder that renders to nothing, and otherwise gives each rendering. -/
theorem expandSegments_render_eq_ok {vars : Variables} {enc : String → String → String}
    {segs : List Segment} {r : Option String}
    (h : expandSegments (fun n => do let v ← lookupVar vars n; pure (v.render.map (enc n))) id segs =
      .ok r) :
    r = filledText? vars enc segs := by
  cases r with
  | some t =>
    have hfound := lookup_of_expandSegments_eq_some h
    -- every placeholder is bound to a value that renders, to the text `fill` writes
    have hrender : ∀ n ∈ holeNames segs, ∃ v raw, vars.get? n = some v ∧ v.render = some raw := by
      intro n hn
      obtain ⟨x, hx⟩ := hfound n hn
      obtain ⟨v, hv, hx⟩ := renderLookup_eq_ok.1 hx
      cases hraw : v.render with
      | none => simp [hraw] at hx
      | some raw => exact ⟨v, raw, hv, hraw⟩
    have hnothing : (holeNames segs).any (rendersNothing vars) = false := by
      rw [List.any_eq_false]
      intro n hn
      obtain ⟨v, raw, hv, hraw⟩ := hrender n hn
      simp [rendersNothing, hv, hraw]
    rw [eq_fillHoles_of_expandSegments_eq_some (fun n => enc n (renderedText vars n)) h
      fun n hn => by
        obtain ⟨v, raw, hv, hraw⟩ := hrender n hn
        exact (@renderLookup_eq_ok vars enc n _).2 ⟨v, hv, by simp [renderedText, hv, hraw]⟩]
    simp [filledText?, hnothing]
  | none =>
    obtain ⟨n, hn, hnone⟩ := exists_lookup_none_of_expandSegments_eq_none h
    obtain ⟨v, hv, hraw⟩ := renderLookup_eq_ok.1 hnone
    have hnothing : (holeNames segs).any (rendersNothing vars) = true :=
      List.any_eq_true.2 ⟨n, hn, by simp [rendersNothing, hv, Option.map_eq_none_iff.1 hraw.symm]⟩
    simp [filledText?, hnothing]

/-! ## The three expansions -/

/-- The values a query or header value text expands to. A text that is a single
placeholder bound to a list gives one value per item that renders; any other text
gives at most one value, its filling through renderings. -/
def expandedValues (vars : Variables) (enc : String → String → String) (s : String) :
    List String :=
  match singleHole? s with
  | some n =>
    match vars.get? n with
    | some (.list items) => (items.filterMap Value.render).map (enc n)
    | _ => (filledText? vars enc (scan s)).toList
  | none => (filledText? vars enc (scan s)).toList

/-- Filling a single placeholder is writing the rendering of its value. -/
theorem filledText?_single {vars : Variables} {enc : String → String → String} {s n : String}
    (h : singleHole? s = some n) {v : Value} (hv : vars.get? n = some v) :
    filledText? vars enc (scan s) = v.render.map (enc n) := by
  obtain ⟨body, hscan, rfl⟩ := scan_of_singleHole? h
  rw [hscan]
  cases hraw : v.render <;>
    simp [filledText?, rendersNothing, renderedText, fillHoles, hv, hraw]

theorem expandValue_eq_ok {s : String} {vars : Variables} {enc : String → String → String}
    {out : List String} (h : expandValue s vars enc = .ok out) :
    out = expandedValues vars enc s := by
  unfold expandValue at h
  unfold expandedValues
  cases hsingle : singleHole? s with
  | none =>
    simp only [hsingle, bind_eq_ok, pure_eq_ok] at h ⊢
    obtain ⟨r, hr, rfl⟩ := h
    rw [expandSegments_render_eq_ok hr]
  | some n =>
    simp only [hsingle, bind_eq_ok] at h ⊢
    obtain ⟨v, hv, hout⟩ := h
    have hget := lookupVar_eq_ok.1 hv
    rw [hget]
    cases v with
    | list items =>
      simp only [pure_eq_ok] at hout
      simp [← hout, renderItems_eq_filterMap]
    | _ =>
      simp only [pure_eq_ok] at hout
      simp [← hout, filledText?_single hsingle hget]

/-- Expanding a path fills every placeholder with its rendering, percent-encoded as a
path segment unless its name is already encoded; every placeholder is bound to a
value that renders. -/
theorem expandPath_eq_ok {path : String} {vars : Variables} {enc : List String} {p : String}
    (h : expandPath path vars enc = .ok p) :
    (∀ n ∈ holeNames (scan path), ∃ v raw, vars.get? n = some v ∧ v.render = some raw) ∧
      p = fillHoles id (fun n => if n ∈ enc then renderedText vars n
        else Percent.encodePathSegment (renderedText vars n)) (scan path) := by
  simp only [expandPath, bind_eq_ok, pure_eq_ok] at h
  obtain ⟨r, hr, rfl⟩ := h
  cases r with
  | none =>
    -- a path look-up fails or gives a text, never nothing
    obtain ⟨n, -, hnone⟩ := exists_lookup_none_of_expandSegments_eq_none hr
    simp only [bind_eq_ok, lookupVar_eq_ok] at hnone
    obtain ⟨v, -, hv⟩ := hnone
    cases hraw : v.render <;> simp [hraw] at hv
  | some t =>
    have hrender : ∀ n ∈ holeNames (scan path),
        ∃ v raw, vars.get? n = some v ∧ v.render = some raw := by
      intro n hn
      obtain ⟨x, hx⟩ := lookup_of_expandSegments_eq_some hr n hn
      simp only [bind_eq_ok, lookupVar_eq_ok] at hx
      obtain ⟨v, hv, hx⟩ := hx
      cases hraw : v.render with
      | none => simp [hraw] at hx
      | some raw => exact ⟨v, raw, hv, hraw⟩
    refine ⟨hrender, ?_⟩
    rw [Option.getD_some]
    refine eq_fillHoles_of_expandSegments_eq_some _ hr fun n hn => ?_
    obtain ⟨v, raw, hv, hraw⟩ := hrender n hn
    simp [lookupVar, hv, hraw, renderedText]

/-- Expanding a body template fills every placeholder with its rendering, or with
nothing when it renders to nothing, and writes `%7B` and `%7D` of the literal text as
braces; every placeholder is bound. -/
theorem expandBody_eq_ok {bt : String} {vars : Variables} {b : String}
    (h : expandBody bt vars = .ok b) :
    (∀ n ∈ holeNames (scan bt), ∃ v, vars.get? n = some v) ∧
      b = fillHoles (fun lit => String.ofList (unescapeBraces lit.toList)) (renderedText vars)
        (scan bt) := by
  simp only [expandBody, bind_eq_ok, pure_eq_ok] at h
  obtain ⟨r, hr, rfl⟩ := h
  cases r with
  | none =>
    -- a body look-up fails or gives a text, never nothing
    obtain ⟨n, -, hnone⟩ := exists_lookup_none_of_expandSegments_eq_none hr
    simp only [bind_eq_ok, pure_eq_ok] at hnone
    obtain ⟨v, -, hv⟩ := hnone
    cases hv
  | some t =>
    have hbound : ∀ n ∈ holeNames (scan bt), ∃ v, vars.get? n = some v := by
      intro n hn
      obtain ⟨x, hx⟩ := lookup_of_expandSegments_eq_some hr n hn
      simp only [bind_eq_ok, lookupVar_eq_ok] at hx
      obtain ⟨v, hv, -⟩ := hx
      exact ⟨v, hv⟩
    refine ⟨hbound, ?_⟩
    rw [Option.getD_some]
    refine eq_fillHoles_of_expandSegments_eq_some _ hr fun n hn => ?_
    obtain ⟨v, hv⟩ := hbound n hn
    simp [lookupVar, hv, renderedText]

end HttpBlueprint
