import HttpBlueprint.Proofs.Multimap
/-!
# Reading and writing request lines

A request line is a method name, a blank character and a URI. `Template.parse` trims
the line and cuts it at its first blank character: the text before must name a method
in any ASCII case, and the trimmed rest is the URI (`parse_eq_ok_iff`).

`Template.ofUri` cuts the URI at its first `?`. The query pieces of the rest group by
name, so the URL of the template is the path followed by the query in normal form
(`url_ofUri`): each name once, in the order the names first come, with all its values
in order, and a name that never has a value alone.

Writing a template as `METHOD url` and reading the line back gives the template again
whenever its URL is not empty and has no blank character at either end
(`parse_display_ofUri`): the path holds no `?`, the names and values of the query hold
no `&`, and the names no `=`, so the pieces of the query string read back as the same
query map (`queriesOf_queryString`).
-/

namespace HttpBlueprint

/-! ## Cutting text -/

/-- No part of a list split at a separator holds the separator. -/
theorem not_mem_of_mem_splitOn {c : Char} :
    ∀ {xs part : List Char}, part ∈ xs.splitOn c → c ∉ part
  | [], part, h => by
    rw [List.splitOn_nil, List.mem_singleton] at h
    simp [h]
  | x :: xs, part, h => by
    rw [List.splitOn_cons_eq_if_modifyHead] at h
    split at h
    · rcases List.mem_cons.1 h with rfl | h
      · simp
      · exact not_mem_of_mem_splitOn h
    · rename_i hx
      -- the first part gains `x`, which is not the separator
      obtain ⟨hd, tl, hsplit⟩ := List.exists_cons_of_ne_nil (List.splitOn_ne_nil c xs)
      rw [hsplit, List.modifyHead_cons] at h
      rcases List.mem_cons.1 h with rfl | h
      · have hhd : c ∉ hd := not_mem_of_mem_splitOn (hsplit ▸ List.mem_cons_self)
        simp only [List.mem_cons, not_or]
        exact ⟨fun hc => hx (by simp [hc]), hhd⟩
      · exact not_mem_of_mem_splitOn (hsplit ▸ List.mem_cons_of_mem hd h)

namespace Text

/-- A text splits at the first character that passes a test into the text before it,
which has no such character, and the text after it. -/
theorem splitOnceBy_eq_some_iff {p : Char → Bool} {s a b : String} :
    splitOnceBy p s = some (a, b) ↔
      ∃ c, p c = true ∧ (∀ x ∈ a.toList, p x = false) ∧ s.toList = a.toList ++ c :: b.toList := by
  unfold splitOnceBy
  rw [List.span_eq_takeWhile_dropWhile]
  constructor
  · intro h
    cases hd : s.toList.dropWhile (fun c => !p c) with
    | nil => simp [hd] at h
    | cons c rest =>
      simp only [hd, Option.some.injEq, Prod.mk.injEq] at h
      obtain ⟨rfl, rfl⟩ := h
      have hc := List.head?_dropWhile_not (fun c => !p c) s.toList
      rw [hd] at hc
      refine ⟨c, by simpa using hc, fun x hx => ?_, ?_⟩
      · have hall := List.all_takeWhile (p := fun c => !p c) (l := s.toList)
        simpa using List.all_eq_true.1 hall x (by simpa using hx)
      · rw [String.toList_ofList, String.toList_ofList, ← hd, List.takeWhile_append_dropWhile]
  · rintro ⟨c, hc, ha, hs⟩
    have hpre : ∀ x ∈ a.toList, (!p x) = true := fun x hx => by simp [ha x hx]
    rw [hs, List.takeWhile_append_of_pos hpre, List.dropWhile_append_of_pos hpre,
      List.takeWhile_cons_of_neg (by simp [hc]), List.dropWhile_cons_of_neg (by simp [hc])]
    simp

/-- A text splits at the first occurrence of a character into the text before it,
which does not hold it, and the text after it. -/
theorem splitOnce_eq_some_iff {s a b : String} {c : Char} :
    splitOnce s c = some (a, b) ↔ c ∉ a.toList ∧ s.toList = a.toList ++ c :: b.toList := by
  unfold splitOnce
  rw [splitOnceBy_eq_some_iff]
  constructor
  · rintro ⟨c', hc', ha, hs⟩
    rw [beq_iff_eq] at hc'
    subst hc'
    exact ⟨fun h => by simpa using ha c' h, hs⟩
  · rintro ⟨ha, hs⟩
    refine ⟨c, by simp, fun x hx => ?_, hs⟩
    have hne : x ≠ c := fun h => ha (h ▸ hx)
    simpa using hne

/-- A text does not split at a character exactly when it does not hold it. -/
theorem splitOnce_eq_none_iff {s : String} {c : Char} : splitOnce s c = none ↔ c ∉ s.toList := by
  constructor
  · intro h hc
    unfold splitOnce splitOnceBy at h
    rw [List.span_eq_takeWhile_dropWhile] at h
    dsimp only at h
    cases hd : s.toList.dropWhile (fun x => !(x == c)) with
    | nil =>
      -- nothing is left after the longest prefix without `c`: the text is that prefix
      have hs : s.toList.takeWhile (fun x => !(x == c)) = s.toList := by
        simpa [hd] using List.takeWhile_append_dropWhile (p := fun x => !(x == c)) (l := s.toList)
      have hall := List.all_takeWhile (p := fun x => !(x == c)) (l := s.toList)
      rw [hs] at hall
      simpa using List.all_eq_true.1 hall c hc
    | cons x rest => simp [hd] at h
  · intro h
    cases hs : splitOnce s c with
    | none => rfl
    | some ab =>
      obtain ⟨-, hsplit⟩ := splitOnce_eq_some_iff.1 hs
      exact absurd (hsplit ▸ List.mem_append_right _ List.mem_cons_self) h

/-- No part of a text split at a character holds the character. -/
theorem not_mem_of_mem_splitAll {s part : String} {c : Char} (h : part ∈ splitAll s c) :
    c ∉ part.toList := by
  obtain ⟨l, hl, rfl⟩ := List.mem_map.1 h
  rw [String.toList_ofList]
  exact not_mem_of_mem_splitOn hl

/-- Splitting parts joined by a one-character separator gives the parts back, when
none holds the separator. -/
theorem splitAll_intercalate {sep : String} {c : Char} (hsep : sep.toList = [c])
    {parts : List String} (hc : ∀ p ∈ parts, c ∉ p.toList) (hne : parts ≠ []) :
    splitAll (sep.intercalate parts) c = parts := by
  unfold splitAll
  rw [String.toList_intercalate, hsep, List.splitOn_intercalate c (by simpa using hc)
    (by simpa using hne), List.map_map]
  simp

end Text

/-! ## Trimming -/

/-- A text with no blank character at either end is its own trim. -/
theorem Blank.trim_eq_self {s : String} (hhead : ∀ c ∈ s.toList.head?, isBlank c = false)
    (hlast : ∀ c ∈ s.toList.getLast?, isBlank c = false) : trim s = s := by
  have hfront : s.toList.dropWhile isBlank = s.toList := by
    cases hs : s.toList with
    | nil => rfl
    | cons c rest => exact List.dropWhile_cons_of_neg (by simpa [hs] using hhead c)
  have hback : s.toList.reverse.dropWhile isBlank = s.toList.reverse := by
    cases hs : s.toList.reverse with
    | nil => rfl
    | cons c rest =>
      have hc : c ∈ s.toList.getLast? := by rw [← List.head?_reverse, hs]; rfl
      exact List.dropWhile_cons_of_neg (by simp [hlast c hc])
  unfold trim
  rw [hfront, hback, List.reverse_reverse, String.ofList_toList]

/-! ## Method names -/

namespace Method

theorem map_toUpper_name (m : Method) : m.name.map Char.toUpper = m.name := by
  apply String.toList_inj.1
  cases m <;> simp [String.toList_map, name]

/-- A method is read from its name in any ASCII case, and from nothing else. -/
theorem parse_eq_ok_iff {s : String} {m : Method} : parse s = .ok m ↔ s.map Char.toUpper = m.name := by
  unfold parse
  generalize s.map Char.toUpper = u
  constructor
  · intro h
    cases hf : all.find? (·.name == u) with
    | none => simp [hf] at h
    | some m' =>
      simp only [hf, Except.ok.injEq] at h
      subst h
      have hname := List.find?_some hf
      simp only [beq_iff_eq] at hname
      exact hname.symm
  · rintro rfl
    cases m <;> simp [all, name]

theorem parse_name (m : Method) : parse m.name = .ok m :=
  parse_eq_ok_iff.2 (map_toUpper_name m)

theorem not_isBlank_of_mem_name (m : Method) : ∀ c ∈ m.name.toList, Blank.isBlank c = false := by
  cases m <;> simp [name, Blank.isBlank]

end Method

/-! ## Query pieces and the normal form of a query -/

/-- The pieces of a query text: its non-empty `&`-separated parts. -/
def queryPieces (query : String) : List String :=
  (Text.splitAll query '&').filter (· ≠ "")

/-- The name of a query piece: its text before the first `=`, or all of it. -/
def pieceName (p : String) : String :=
  ((Text.splitOnce p '=').map (·.1)).getD p

/-- The value of a query piece: its text after the first `=`, if it has one. -/
def pieceValue? (p : String) : Option String :=
  (Text.splitOnce p '=').map (·.2)

/-- The values of the pieces of a name, in order. -/
def pieceValues (ps : List String) (n : String) : List String :=
  (ps.filter (pieceName · == n)).filterMap pieceValue?

/-- The written form of query entries: `name=value` for each value of a name, and a
name without values alone. -/
def queryParts (es : List (String × List String)) : List String :=
  es.flatMap fun e => if e.2.isEmpty then [e.1] else e.2.map (e.1 ++ "=" ++ ·)

/-- A query in normal form: the names of its pieces once each, in the order they first
come, a name with values as `name=value` for each of them in order, and a name that
never has a value alone. -/
def normalQuery (query : String) : String :=
  "&".intercalate (((queryPieces query).map pieceName).eraseDups.flatMap fun n =>
    if (pieceValues (queryPieces query) n).isEmpty then [n]
    else (pieceValues (queryPieces query) n).map (n ++ "=" ++ ·))

/-- The part of a URI before its first `?`. -/
def uriPath (uri : String) : String :=
  String.ofList (uri.toList.takeWhile (· != '?'))

/-- The part of a URI after its first `?`, empty when it has none. -/
def uriQuery (uri : String) : String :=
  String.ofList ((uri.toList.dropWhile (· != '?')).drop 1)

theorem pieceName_of_splitOnce {p n v : String} (h : Text.splitOnce p '=' = some (n, v)) :
    pieceName p = n := by
  simp [pieceName, h]

theorem pieceName_of_not_mem {p : String} (h : '=' ∉ p.toList) : pieceName p = p := by
  simp [pieceName, Text.splitOnce_eq_none_iff.2 h]

/-- A piece's name holds no `=` and only characters of the piece. -/
theorem pieceName_spec (p : String) :
    '=' ∉ (pieceName p).toList ∧ ∀ x ∈ (pieceName p).toList, x ∈ p.toList := by
  cases hs : Text.splitOnce p '=' with
  | none =>
    -- a piece without `=` is its own name
    have hp := Text.splitOnce_eq_none_iff.1 hs
    rw [pieceName_of_not_mem hp]
    exact ⟨hp, fun _ hx => hx⟩
  | some nv =>
    obtain ⟨hn, hsplit⟩ := Text.splitOnce_eq_some_iff.1 hs
    rw [pieceName_of_splitOnce hs, hsplit]
    exact ⟨hn, fun x hx => List.mem_append_left _ hx⟩

/-- A piece's value holds only characters of the piece. -/
theorem pieceValue?_spec {p v : String} (h : pieceValue? p = some v) :
    ∀ x ∈ v.toList, x ∈ p.toList := by
  obtain ⟨⟨n, v'⟩, hs, rfl⟩ := Option.map_eq_some_iff.1 h
  obtain ⟨-, hsplit⟩ := Text.splitOnce_eq_some_iff.1 hs
  intro x hx
  rw [hsplit]
  exact List.mem_append_right _ (List.mem_cons_of_mem _ hx)

/-! ## Cutting a URI at its first `?` -/

theorem bne_of_mem_of_not_mem {c x : Char} {l : List Char} (h : c ∉ l) (hx : x ∈ l) :
    (x != c) = true := by
  have hne : x ≠ c := fun hxc => h (hxc ▸ hx)
  simpa using hne

theorem takeWhile_ne_of_not_mem {c : Char} {l : List Char} (h : c ∉ l) :
    l.takeWhile (· != c) = l :=
  List.takeWhile_eq_self_iff.2 fun _ hx => bne_of_mem_of_not_mem h hx

theorem dropWhile_ne_of_not_mem {c : Char} {l : List Char} (h : c ∉ l) :
    l.dropWhile (· != c) = [] :=
  List.dropWhile_eq_nil_iff.2 fun _ hx => bne_of_mem_of_not_mem h hx

theorem takeWhile_ne_append {c : Char} {a b : List Char} (h : c ∉ a) :
    (a ++ c :: b).takeWhile (· != c) = a := by
  have hall : ∀ x ∈ a, (x != c) = true := fun _ hx => bne_of_mem_of_not_mem h hx
  rw [List.takeWhile_append_of_pos hall, List.takeWhile_cons_of_neg (by simp)]
  simp

theorem dropWhile_ne_append {c : Char} {a b : List Char} (h : c ∉ a) :
    (a ++ c :: b).dropWhile (· != c) = c :: b := by
  have hall : ∀ x ∈ a, (x != c) = true := fun _ hx => bne_of_mem_of_not_mem h hx
  rw [List.dropWhile_append_of_pos hall, List.dropWhile_cons_of_neg (by simp)]

theorem uriPath_of_not_mem {u : String} (h : '?' ∉ u.toList) : uriPath u = u := by
  simp [uriPath, takeWhile_ne_of_not_mem h]

theorem uriQuery_of_not_mem {u : String} (h : '?' ∉ u.toList) : uriQuery u = "" := by
  simp [uriQuery, dropWhile_ne_of_not_mem h]

theorem uriPath_append {a b : String} (h : '?' ∉ a.toList) : uriPath (a ++ "?" ++ b) = a := by
  simp [uriPath, takeWhile_ne_append h]

theorem uriQuery_append {a b : String} (h : '?' ∉ a.toList) : uriQuery (a ++ "?" ++ b) = b := by
  simp [uriQuery, dropWhile_ne_append h]

/-- The path of a URI holds no `?`. -/
theorem not_mem_uriPath (u : String) : '?' ∉ (uriPath u).toList := by
  intro h
  have hall := List.all_takeWhile (p := (· != '?')) (l := u.toList)
  simpa [uriPath] using List.all_eq_true.1 hall '?' (by simpa [uriPath] using h)

namespace Template

theorem addQueryPiece_eq (qs : Multimap String) (p : String) :
    addQueryPiece qs p = qs.append (pieceName p) (pieceValue? p).toList := by
  unfold addQueryPiece pieceName pieceValue?
  cases Text.splitOnce p '=' <;> rfl

/-- The queries of a query text group the values of its pieces by name: one entry per
name, in the order the names first come, with the values of its pieces in order. -/
theorem entries_queriesOf (q : String) :
    (queriesOf q).entries =
      ((queryPieces q).map pieceName).eraseDups.map fun n => (n, pieceValues (queryPieces q) n) := by
  have hfold : queriesOf q = (queryPieces q).foldl
      (fun m p => m.append (pieceName p) (pieceValue? p).toList) Multimap.empty := by
    unfold queriesOf queryPieces
    congr 1
    funext m p
    exact addQueryPiece_eq m p
  rw [hfold, Multimap.entries_foldl_append]
  refine List.map_congr_left fun n _ => ?_
  simp [pieceValues, List.filterMap_eq_flatMap_toList]

theorem queriesOf_caseInsensitive (q : String) : (queriesOf q).caseInsensitive = false :=
  foldl_invariant (fun m : Multimap String => m.caseInsensitive = false)
    (fun m p h => by rw [addQueryPiece_eq]; exact h) _ rfl

theorem queryString_eq (t : Template) : t.queryString = "&".intercalate (queryParts t.queries.entries) :=
  rfl

/-- A template from a URI has the URI's path, the queries of the URI's query and a header
map that compares names ignoring case. -/
theorem ofUri_eq (m : Method) (u : String) :
    ofUri m u =
      { method := m, path := uriPath u, queries := queriesOf (uriQuery u),
        headers := Multimap.emptyCaseInsensitive } := by
  unfold ofUri
  cases hs : Text.splitOnce u '?' with
  | none =>
    have hu := Text.splitOnce_eq_none_iff.1 hs
    simp [uriPath_of_not_mem hu, uriQuery_of_not_mem hu]
  | some ab =>
    obtain ⟨a, b⟩ := ab
    obtain ⟨ha, hsplit⟩ := Text.splitOnce_eq_some_iff.1 hs
    have hu : u = a ++ "?" ++ b := String.toList_inj.1 (by simp [hsplit])
    simp [hu, uriPath_append ha, uriQuery_append ha]


/-- The query string of queries read from a query text is the text in normal form. -/
theorem queryString_eq_normalQuery {t : Template} {q : String} (h : t.queries = queriesOf q) :
    t.queryString = normalQuery q := by
  rw [queryString_eq, h, entries_queriesOf]
  unfold queryParts normalQuery
  rw [List.flatMap_map]

/-- The URL of a template read from a URI is the URI's path, followed by `?` and the
query string when that is not empty. -/
theorem url_ofUri_eq (m : Method) (u : String) :
    (ofUri m u).url =
      if (ofUri m u).queryString.isEmpty then uriPath u
      else uriPath u ++ "?" ++ (ofUri m u).queryString := by
  unfold url
  generalize (ofUri m u).queryString = qs
  rw [ofUri_eq]
  simp

/-! ## Reading a query string back -/

/-- The pieces of parts joined by `&` are the parts, when none is empty or holds `&`. -/
theorem queryPieces_intercalate {parts : List String} (hamp : ∀ p ∈ parts, '&' ∉ p.toList)
    (hne : ∀ p ∈ parts, p ≠ "") : queryPieces ("&".intercalate parts) = parts := by
  unfold queryPieces
  cases parts with
  | nil => simp [Text.splitAll]
  | cons p rest =>
    rw [Text.splitAll_intercalate (by simp) hamp (List.cons_ne_nil _ _)]
    exact List.filter_eq_self.2 fun p hp => by simpa using hne p hp

/-- A piece read into queries whose last entry is its name adds its value there. -/
theorem addQueryPiece_last {acc : List (String × List String)} {n : String} (xs : List String)
    (p : String) (hp : pieceName p = n) (hfresh : n ∉ acc.map (·.1)) :
    addQueryPiece ⟨acc ++ [(n, xs)], false⟩ p = ⟨acc ++ [(n, xs ++ (pieceValue? p).toList)], false⟩ := by
  have hacc : ∀ e ∈ acc, keyMatches false e.1 n = false := fun e he => by
    have hne : e.1 ≠ n := fun h => hfresh (List.mem_map.2 ⟨e, he, h⟩)
    simp [keyMatches, keyClass, hne]
  rw [addQueryPiece_eq, hp]
  simp [Multimap.append, Multimap.appendEntries_append_of_forall_not_keyMatches _ hacc,
    Multimap.appendEntries, keyMatches]

/-- A piece read into queries that lack its name adds an entry for it last. -/
theorem addQueryPiece_fresh {acc : List (String × List String)} (p : String)
    (hfresh : pieceName p ∉ acc.map (·.1)) :
    addQueryPiece ⟨acc, false⟩ p = ⟨acc ++ [(pieceName p, (pieceValue? p).toList)], false⟩ := by
  rw [addQueryPiece_eq]
  simp only [Multimap.append]
  rw [Multimap.appendEntries_of_forall_not_keyMatches]
  intro e he
  have hne : e.1 ≠ pieceName p := fun h => hfresh (List.mem_map.2 ⟨e, he, h⟩)
  simp [keyMatches, keyClass, hne]

/-- The written parts of one entry, read into queries that lack its name, add the
entry last. -/
theorem foldl_addQueryPiece_parts_one (acc : List (String × List String)) (n : String)
    (vs : List String) (hfresh : n ∉ acc.map (·.1)) (hn : '=' ∉ n.toList) :
    (queryParts [(n, vs)]).foldl addQueryPiece ⟨acc, false⟩ = ⟨acc ++ [(n, vs)], false⟩ := by
  have hcut : ∀ v, Text.splitOnce (n ++ "=" ++ v) '=' = some (n, v) := fun v =>
    (Text.splitOnce_eq_some_iff (a := n) (b := v)).2 ⟨hn, by simp⟩
  have hname : ∀ v, pieceName (n ++ "=" ++ v) = n := fun v => pieceName_of_splitOnce (hcut v)
  have hvalue : ∀ v, pieceValue? (n ++ "=" ++ v) = some v := fun v => by
    simp [pieceValue?, hcut v]
  -- after the first value the entry is last, and each further value joins it
  have hrest : ∀ (vs xs : List String),
      (vs.map (n ++ "=" ++ ·)).foldl addQueryPiece ⟨acc ++ [(n, xs)], false⟩ =
        ⟨acc ++ [(n, xs ++ vs)], false⟩ := by
    intro vs
    induction vs with
    | nil => simp
    | cons v vs ih =>
      intro xs
      rw [List.map_cons, List.foldl_cons, addQueryPiece_last xs _ (hname v) hfresh, hvalue, ih]
      simp
  cases vs with
  | nil =>
    simp only [queryParts, List.flatMap_cons, List.flatMap_nil, List.isEmpty_nil, if_true,
      List.append_nil, List.foldl_cons, List.foldl_nil]
    rw [addQueryPiece_fresh _ (by rwa [pieceName_of_not_mem hn]), pieceName_of_not_mem hn]
    simp [pieceValue?, Text.splitOnce_eq_none_iff.2 hn]
  | cons v vs =>
    simp only [queryParts, List.flatMap_cons, List.flatMap_nil, List.isEmpty_cons,
      Bool.false_eq_true, if_false, List.append_nil, List.map_cons, List.foldl_cons]
    rw [addQueryPiece_fresh _ (by rwa [hname]), hname, hvalue, hrest]
    simp

/-- Written entries with distinct names free of `=`, read into queries that lack those
names, add the entries last. -/
theorem foldl_addQueryPiece_queryParts :
    ∀ (es acc : List (String × List String)), (acc.map (·.1) ++ es.map (·.1)).Nodup →
      (∀ e ∈ es, '=' ∉ e.1.toList) →
      (queryParts es).foldl addQueryPiece ⟨acc, false⟩ = ⟨acc ++ es, false⟩
  | [], acc, _, _ => by simp [queryParts]
  | e :: rest, acc, hnd, hn => by
    have hsplit : queryParts (e :: rest) = queryParts [e] ++ queryParts rest := by
      simp [queryParts]
    have hfresh : e.1 ∉ acc.map (·.1) := by
      intro h
      exact (List.nodup_append.1 hnd).2.2 _ h _ List.mem_cons_self rfl
    rw [hsplit, List.foldl_append, foldl_addQueryPiece_parts_one acc e.1 e.2 hfresh
      (hn e List.mem_cons_self)]
    rw [foldl_addQueryPiece_queryParts rest (acc ++ [e]) (by simpa using hnd)
      fun e' he' => hn e' (List.mem_cons_of_mem _ he')]
    simp

/-- Reading back the query string of the queries of a query text gives the same
queries: names of pieces hold no `=` or `&`, values no `&`, a name alone is not empty,
and the names are distinct. -/
theorem queriesOf_queryString (q : String) :
    queriesOf ("&".intercalate (queryParts (queriesOf q).entries)) = queriesOf q := by
  have hps : ∀ p ∈ queryPieces q, '&' ∉ p.toList ∧ p ≠ "" := fun p hp => by
    obtain ⟨hmem, hne⟩ := List.mem_filter.1 hp
    exact ⟨Text.not_mem_of_mem_splitAll hmem, by simpa using hne⟩
  -- every name comes from a piece, and so does every value
  have hnames : ∀ n ∈ ((queryPieces q).map pieceName).eraseDups,
      ∃ p ∈ queryPieces q, pieceName p = n := fun n hn =>
    List.mem_map.1 (List.mem_eraseDups.1 hn)
  have hvals : ∀ n v, v ∈ pieceValues (queryPieces q) n →
      ∃ p ∈ queryPieces q, pieceName p = n ∧ pieceValue? p = some v := fun n v hv => by
    obtain ⟨p, hp, hpv⟩ := List.mem_filterMap.1 hv
    obtain ⟨hp, hpn⟩ := List.mem_filter.1 hp
    exact ⟨p, hp, by simpa using hpn, hpv⟩
  have hnoAmpName : ∀ n ∈ ((queryPieces q).map pieceName).eraseDups, '&' ∉ n.toList :=
    fun n hn h => by
      obtain ⟨p, hp, rfl⟩ := hnames n hn
      exact (hps p hp).1 ((pieceName_spec p).2 _ h)
  have hparts : ∀ part ∈ queryParts (queriesOf q).entries, '&' ∉ part.toList ∧ part ≠ "" := by
    intro part hpart
    rw [entries_queriesOf] at hpart
    obtain ⟨e, he, hpe⟩ := List.mem_flatMap.1 hpart
    obtain ⟨n, hn, rfl⟩ := List.mem_map.1 he
    by_cases hempty : (pieceValues (queryPieces q) n).isEmpty
    · simp only [hempty, if_true, List.mem_singleton] at hpe
      rw [hpe]
      refine ⟨hnoAmpName n hn, ?_⟩
      -- a name that never has a value is a whole piece, and pieces are not empty
      obtain ⟨p, hp, rfl⟩ := hnames n hn
      cases hv : pieceValue? p with
      | some v =>
        have hmem : v ∈ pieceValues (queryPieces q) (pieceName p) :=
          List.mem_filterMap.2 ⟨p, List.mem_filter.2 ⟨hp, by simp⟩, hv⟩
        simp [List.isEmpty_iff.1 hempty] at hmem
      | none =>
        have hnone : Text.splitOnce p '=' = none := by
          simpa [pieceValue?] using hv
        rw [pieceName_of_not_mem (Text.splitOnce_eq_none_iff.1 hnone)]
        exact (hps p hp).2
    · simp only [hempty, Bool.false_eq_true, if_false, List.mem_map] at hpe
      obtain ⟨v, hv, rfl⟩ := hpe
      obtain ⟨p, hp, -, hpv⟩ := hvals n v hv
      refine ⟨?_, fun h => by simpa using congrArg String.length h⟩
      simp only [String.toList_append, List.mem_append, not_or]
      exact ⟨⟨hnoAmpName n hn, by simp⟩, fun h => (hps p hp).1 (pieceValue?_spec hpv _ h)⟩
  have hnd : (([] : List (String × List String)).map (·.1) ++
      (queriesOf q).entries.map (·.1)).Nodup := by
    rw [entries_queriesOf]
    simpa [Function.comp_def] using nodup_eraseDups ((queryPieces q).map pieceName)
  have hnoEq : ∀ e ∈ (queriesOf q).entries, '=' ∉ e.1.toList := by
    rw [entries_queriesOf]
    intro e he
    obtain ⟨n, hn, rfl⟩ := List.mem_map.1 he
    obtain ⟨p, -, rfl⟩ := hnames n hn
    exact (pieceName_spec p).1
  have hread : queriesOf ("&".intercalate (queryParts (queriesOf q).entries)) =
      (queryParts (queriesOf q).entries).foldl addQueryPiece ⟨[], false⟩ := by
    show (queryPieces ("&".intercalate (queryParts (queriesOf q).entries))).foldl addQueryPiece
      Multimap.empty = _
    rw [queryPieces_intercalate (fun p hp => (hparts p hp).1) (fun p hp => (hparts p hp).2)]
    rfl
  rw [hread, foldl_addQueryPiece_queryParts _ [] hnd hnoEq, List.nil_append,
    ← queriesOf_caseInsensitive q]

/-- A template read from the URL of a template read from a URI is that template, up
to its method. -/
theorem ofUri_url (m m' : Method) (u : String) : ofUri m (ofUri m' u).url = ofUri m u := by
  have hqs : queriesOf (ofUri m' u).queryString = queriesOf (uriQuery u) := by
    rw [queryString_eq, ofUri_eq]
    exact queriesOf_queryString (uriQuery u)
  rw [url_ofUri_eq, ofUri_eq, ofUri_eq m u]
  split
  · rename_i hempty
    have hqs' : (ofUri m' u).queryString = "" := String.isEmpty_iff.1 hempty
    rw [uriPath_of_not_mem (not_mem_uriPath u), uriQuery_of_not_mem (not_mem_uriPath u),
      ← hqs', hqs]
  · rw [uriPath_append (not_mem_uriPath u), uriQuery_append (not_mem_uriPath u), hqs]

@[simp] theorem ofUri_method (m : Method) (u : String) : (ofUri m u).method = m := by
  rw [ofUri_eq]

theorem ofUri_queries (m : Method) (u : String) : (ofUri m u).queries = queriesOf (uriQuery u) := by
  rw [ofUri_eq]

theorem ofUri_headers (m : Method) (u : String) :
    (ofUri m u).headers = Multimap.emptyCaseInsensitive := by
  rw [ofUri_eq]

/-- The URL of a template read from a URI is the URI's path, followed by `?` and the
normal form of its query when that is not empty. -/
theorem url_ofUri (m : Method) (u : String) :
    (ofUri m u).url =
      if (normalQuery (uriQuery u)).isEmpty then uriPath u
      else uriPath u ++ "?" ++ normalQuery (uriQuery u) := by
  rw [url_ofUri_eq, queryString_eq_normalQuery (ofUri_queries m u)]

example : (ofUri .get "/search?q=a&flag&q=b&flag=on").url = "/search?q=a&q=b&flag=on" := by
  decide +kernel

theorem display_toList (t : Template) :
    t.display.toList = t.method.name.toList ++ ' ' :: t.url.toList := by
  simp [display]

/-- A template read from a URI is read back from its request line, when its URL is
not empty and has no blank character at either end. -/
theorem parse_display_ofUri (m : Method) (u : String) (hne : (ofUri m u).url ≠ "")
    (hhead : ∀ c ∈ (ofUri m u).url.toList.head?, Blank.isBlank c = false)
    (hlast : ∀ c ∈ (ofUri m u).url.toList.getLast?, Blank.isBlank c = false) :
    parse (ofUri m u).display = .ok (ofUri m u) := by
  have hline : (ofUri m u).display.toList = m.name.toList ++ ' ' :: (ofUri m u).url.toList := by
    rw [display_toList, ofUri_method]
  -- the method name starts the line and the URL ends it, so trimming keeps the line
  have htrim : Blank.trim (ofUri m u).display = (ofUri m u).display := by
    apply Blank.trim_eq_self
    · rw [hline]
      cases m <;> simp [Method.name, Blank.isBlank]
    · have hurl : (ofUri m u).url.toList ≠ [] := by simpa using hne
      rw [hline, ← List.singleton_append, ← List.append_assoc,
        List.getLast?_append_of_ne_nil _ hurl]
      exact hlast
  have hsplit : Text.splitOnceBy Blank.isBlank (ofUri m u).display = some (m.name, (ofUri m u).url) :=
    Text.splitOnceBy_eq_some_iff.2 ⟨' ', by decide, Method.not_isBlank_of_mem_name m, hline⟩
  unfold parse
  rw [htrim, hsplit]
  simp [Method.parse_name, Blank.trim_eq_self hhead hlast, ofUri_url]

/-- A request line reads as a template exactly when its trimmed text has a blank
character and the text before the first one names a method in any ASCII case; the
template is then the one read from the trimmed rest. -/
theorem parse_eq_ok_iff {line : String} {t : Template} :
    parse line = .ok t ↔
      ∃ (verb uri : String) (c : Char) (m : Method), (Blank.trim line).toList = verb.toList ++ c :: uri.toList ∧
        Blank.isBlank c = true ∧ (∀ x ∈ verb.toList, Blank.isBlank x = false) ∧
        verb.map Char.toUpper = m.name ∧ t = ofUri m (Blank.trim uri) := by
  unfold parse
  cases hs : Text.splitOnceBy Blank.isBlank (Blank.trim line) with
  | none =>
    simp only [reduceCtorEq, false_iff, not_exists, not_and]
    intro verb uri c m hline hc hverb
    have := Text.splitOnceBy_eq_some_iff.2 ⟨c, hc, hverb, hline⟩
    simp [hs] at this
  | some vu =>
    obtain ⟨verb, uri⟩ := vu
    obtain ⟨c, hc, hverb, hline⟩ := Text.splitOnceBy_eq_some_iff.1 hs
    simp only [bind_eq_ok, pure_eq_ok, Method.parse_eq_ok_iff]
    constructor
    · rintro ⟨m, hm, rfl⟩
      exact ⟨verb, uri, c, m, hline, hc, hverb, hm, rfl⟩
    · rintro ⟨verb', uri', c', m, hline', hc', hverb', hm, ht⟩
      -- the first blank character cuts the line in one way only
      have hs' := Text.splitOnceBy_eq_some_iff.2 ⟨c', hc', hverb', hline'⟩
      rw [hs] at hs'
      obtain ⟨rfl, rfl⟩ := Prod.mk.inj (Option.some.inj hs')
      exact ⟨m, hm, ht.symm⟩

/-- Request lines read and write templates: the URL of a template read from a URI is
the URI's path and its query in normal form; the template is read back from its
request line when the URL is not empty and has no blank character at either end; and
a line reads as a template exactly when, trimmed, it is a method name in any ASCII
case, a blank character and a URI. -/
theorem requestLine_roundTrip :
    (∀ (m : Method) (u : String), (ofUri m u).url =
        if (normalQuery (uriQuery u)).isEmpty then uriPath u
        else uriPath u ++ "?" ++ normalQuery (uriQuery u)) ∧
    (∀ (m : Method) (u : String), (ofUri m u).url ≠ "" →
        (∀ c ∈ (ofUri m u).url.toList.head?, Blank.isBlank c = false) →
        (∀ c ∈ (ofUri m u).url.toList.getLast?, Blank.isBlank c = false) →
        parse (ofUri m u).display = .ok (ofUri m u)) ∧
    ∀ (line : String) (t : Template), parse line = .ok t ↔
      ∃ (verb uri : String) (c : Char) (m : Method),
        (Blank.trim line).toList = verb.toList ++ c :: uri.toList ∧ Blank.isBlank c = true ∧
        (∀ x ∈ verb.toList, Blank.isBlank x = false) ∧ verb.map Char.toUpper = m.name ∧
        t = ofUri m (Blank.trim uri) :=
  ⟨url_ofUri, parse_display_ofUri, fun _ _ => parse_eq_ok_iff⟩

/-- A query with a repeated name and a bare flag prints grouped, and its request line
reads back. -/
theorem requestLine_roundTrip_grouped :
    (ofUri .get "/search?q=a&flag&q=b").url ≠ "" ∧
      parse (ofUri .get "/search?q=a&flag&q=b").display = .ok (ofUri .get "/search?q=a&flag&q=b") :=
  have hurl : (ofUri .get "/search?q=a&flag&q=b").url.toList = "/search?q=a&q=b&flag".toList := by
    decide +kernel
  ⟨by decide +kernel, requestLine_roundTrip.2.1 _ _ (by decide +kernel) (by simp [hurl, Blank.isBlank])
    (by simp [hurl, Blank.isBlank])⟩

end Template

end HttpBlueprint
