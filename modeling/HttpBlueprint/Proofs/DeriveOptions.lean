import HttpBlueprint.Proofs.Basic
import HttpBlueprint.Derive.Aggregate
/-!
# The options of aggregate attributes

The arguments of an `aggregate` attribute are options: a path, and `= "text"` after it
when the option takes a text. `Setting.read` reads what follows a path that way whatever
the path, so `optionsOf` lists the options of all `aggregate` attributes among some
attributes, in order, and attributes with another path give none. An option is well
formed when the paths `rename_all`, `type_name` and `rename` take a text and no other
path does.

The derive reads the same attributes with readers that know the paths. Such a reader is
described by the refusal (`fault`) and the effect (`apply`) of each option: over
well-formed options it is a fold that refuses or applies each option in turn
(`readOptions_of_logged`), and a reader that accepts attributes read well-formed options
there (`logged_of_readOptions`). The struct's and the fields' readers are such readers,
and their settings are those the options give, the last of each kind winning
(`foldl_eq_lastValue`). The struct's reader refuses every option but a `type_name` and a
`rename_all` that names a rule (`structFault_eq_none`), the fields' reader every option but
`skip` and `rename`.
-/

namespace HttpBlueprint.Derive

/-! ## Options as written -/

/-- An option of an `aggregate` attribute: its path, and the text after `=` when it has
one. -/
structure Setting where
  path : Path
  value : Option String

namespace Setting

/-- Reads what follows an option's path, whatever the path: `= "text"`, or nothing. -/
def read (p : Path) (ts : List Token) : Except String (Setting × List Token) :=
  match ts with
  | .punct '=' _ :: _ => do
    let (v, rest) ← stringValue ts
    pure (⟨p, some v⟩, rest)
  | _ => pure (⟨p, none⟩, ts)

/-- Whether an option is written as the derive expects: the paths `rename_all`,
`type_name` and `rename` with a text, and any other path bare. -/
def WellFormed (s : Setting) : Prop :=
  (s.path.isIdent "rename_all" || s.path.isIdent "type_name" || s.path.isIdent "rename") =
    s.value.isSome

end Setting

/-- Reads options into a list, whatever their paths. -/
def logSetting (acc : List Setting) (p : Path) (ts : List Token) :
    Except String (List Setting × List Token) := do
  let (s, rest) ← Setting.read p ts
  pure (acc ++ [s], rest)

/-- The options of the `aggregate` attributes among some attributes, in order. Every
attribute must read, with no tokens left after it. -/
def optionsOf (attrs : List Attribute) : Except String (List Setting) := do
  let metas ← readMetas (← attributeTokens attrs)
  if metas.any (!·.2.isEmpty) then throw "unexpected token, expected `]`"
  readOptions logSetting [] (metas.map (·.1))

/-- The text of the last option with path `name`, if it has one. -/
def lastValue (name : String) (ss : List Setting) : Option String :=
  ((ss.filter (·.path.isIdent name)).getLast?).bind (·.value)

/-- Whether an option with path `name` is given. -/
def isGiven (name : String) (ss : List Setting) : Bool :=
  ss.any (·.path.isIdent name)

/-! ## Readers that know the paths -/

/-- One option applied by a reader that knows the paths: refused with `fault`, or
applied with `apply`. -/
def applyOption {σ : Type} (fault : Setting → Option String) (apply : σ → Setting → σ)
    (st : σ) (s : Setting) : Except String σ :=
  match fault s with
  | some e => .error e
  | none => .ok (apply st s)

/-- What an option may be followed by in a list of options: a comma, or nothing. -/
def Continues (ts : List Token) : Prop :=
  ts = [] ∨ ∃ j more, ts = .punct ',' j :: more

/-- A reader that refuses with `fault` and applies with `apply` every well-formed option
read after a path. -/
def ReadsBy {σ : Type} (step : σ → Path → List Token → Except String (σ × List Token))
    (fault : Setting → Option String) (apply : σ → Setting → σ) : Prop :=
  ∀ st p ts s rest, Setting.read p ts = .ok (s, rest) → s.WellFormed →
    step st p ts = (fun st' => (st', rest)) <$> applyOption fault apply st s

/-- A reader that, whenever it reads an option followed by a comma or nothing, read a
well-formed one. -/
def AcceptsWellFormed {σ : Type}
    (step : σ → Path → List Token → Except String (σ × List Token)) : Prop :=
  ∀ st p ts st' rest, step st p ts = .ok (st', rest) → Continues rest →
    ∃ s, Setting.read p ts = .ok (s, rest) ∧ s.WellFormed

namespace Setting

/-- What reading after a path gives: the path, and either no text with nothing read, or
the text `stringValue` reads. -/
theorem read_eq_ok {p : Path} {ts rest : List Token} {s : Setting}
    (h : read p ts = .ok (s, rest)) :
    s.path = p ∧ (s.value = none → rest = ts) ∧
      ∀ v, s.value = some v → stringValue ts = .ok (v, rest) := by
  unfold read at h
  split at h
  · obtain ⟨⟨v, rest'⟩, hv, hpair⟩ := bind_eq_ok.1 h
    cases pure_eq_ok.1 hpair
    exact ⟨rfl, by simp, by simpa using hv⟩
  · cases pure_eq_ok.1 h
    exact ⟨rfl, fun _ => rfl, by simp⟩

/-- Before a comma or the end, nothing is read after a path. -/
theorem read_of_continues {p : Path} {ts : List Token} (h : Continues ts) :
    read p ts = .ok (⟨p, none⟩, ts) := by
  rcases h with rfl | ⟨j, more, rfl⟩ <;> rfl

/-- `stringValue` reads a text from `=` and a string literal. -/
theorem stringValue_eq_ok {ts rest : List Token} {v : String}
    (h : stringValue ts = .ok (v, rest)) : ∃ j, ts = .punct '=' j :: .lit (.str v) :: rest := by
  unfold stringValue at h
  split at h
  · rename_i j more
    split at h
    · cases h
      exact ⟨j, rfl⟩
    · cases h
  · cases h

/-- Where `stringValue` reads a text, so does reading after a path. -/
theorem read_of_stringValue {p : Path} {ts rest : List Token} {v : String}
    (h : stringValue ts = .ok (v, rest)) : read p ts = .ok (⟨p, some v⟩, rest) := by
  obtain ⟨j, rfl⟩ := stringValue_eq_ok h
  rfl

end Setting

/-- A path that is one identifier is no other one. -/
theorem Path.isIdent_of_isIdent {p : Path} {a : String} (h : p.isIdent a = true) (b : String) :
    p.isIdent b = (a == b) := by
  unfold Path.isIdent at h ⊢
  simp only [Bool.and_eq_true, Bool.not_eq_eq_eq_not, Bool.not_true, beq_iff_eq] at h
  rw [h.1, h.2]
  simp

section Reading

variable {σ : Type} {step : σ → Path → List Token → Except String (σ × List Token)}
  {fault : Setting → Option String} {apply : σ → Setting → σ}

theorem logSetting_eq_ok {acc : List Setting} {p : Path} {ts : List Token}
    {r : List Setting × List Token} :
    logSetting acc p ts = .ok r ↔
      ∃ s rest, Setting.read p ts = .ok (s, rest) ∧ r = (acc ++ [s], rest) := by
  unfold logSetting
  simp only [bind_eq_ok, pure_eq_ok]
  constructor
  · rintro ⟨⟨s, rest⟩, hs, hr⟩
    exact ⟨s, rest, hs, hr.symm⟩
  · rintro ⟨s, rest, hs, rfl⟩
    exact ⟨(s, rest), hs, rfl⟩

/-- Over options read as well-formed ones, a reader that knows the paths refuses or
applies each option in turn. -/
theorem nestedFrom_of_logged (h : ReadsBy step fault apply) :
    ∀ (fuel : Nat) (ts : List Token) (acc r : List Setting),
      nestedFrom logSetting fuel acc ts = .ok r → (∀ s ∈ r, s.WellFormed) →
        ∃ items, r = acc ++ items ∧
          ∀ st, nestedFrom step fuel st ts = items.foldlM (applyOption fault apply) st
  | _, [], acc, r, hlog, _ => by
    rw [nestedFrom.eq_1] at hlog
    exact ⟨[], by simpa using (pure_eq_ok.1 hlog).symm, fun st => by rw [nestedFrom.eq_1]; rfl⟩
  | 0, t :: ts, acc, r, hlog, _ => by
    rw [nestedFrom.eq_2 _ _ _ (List.cons_ne_nil t ts)] at hlog
    exact ⟨[], by simpa using (pure_eq_ok.1 hlog).symm,
      fun st => by rw [nestedFrom.eq_2 _ _ _ (List.cons_ne_nil t ts)]; rfl⟩
  | fuel + 1, t :: ts, acc, r, hlog, hwf => by
    rw [nestedFrom.eq_3 _ _ _ _ (List.cons_ne_nil t ts)] at hlog
    obtain ⟨⟨path, rest⟩, hpath, hlog⟩ := bind_eq_ok.1 hlog
    obtain ⟨⟨acc', rest'⟩, hstep, hlog⟩ := bind_eq_ok.1 hlog
    obtain ⟨s, _, hread, hpair⟩ := logSetting_eq_ok.1 hstep
    cases hpair
    dsimp only at hlog
    split at hlog
    · -- nothing follows: this option is the last
      obtain rfl := pure_eq_ok.1 hlog
      refine ⟨[s], rfl, fun st => ?_⟩
      rw [nestedFrom.eq_3 _ _ _ _ (List.cons_ne_nil t ts), hpath, ok_bind]
      dsimp only
      rw [h st path rest s [] hread (hwf s (by simp)), List.foldlM_cons]
      cases applyOption fault apply st s <;> rfl
    · -- a comma: the options after it follow
      rename_i j more
      obtain ⟨items, rfl, hrest⟩ := nestedFrom_of_logged h fuel more (acc ++ [s]) r hlog hwf
      refine ⟨s :: items, by simp, fun st => ?_⟩
      rw [nestedFrom.eq_3 _ _ _ _ (List.cons_ne_nil t ts), hpath, ok_bind]
      dsimp only
      rw [h st path rest s _ hread (hwf s (by simp)), List.foldlM_cons]
      cases applyOption fault apply st s with
      | error e => rfl
      | ok st' => exact hrest st'
    · cases hlog

theorem logSetting_of_read {acc : List Setting} {p : Path} {ts rest : List Token} {s : Setting}
    (h : Setting.read p ts = .ok (s, rest)) : logSetting acc p ts = .ok (acc ++ [s], rest) :=
  logSetting_eq_ok.2 ⟨s, rest, h, rfl⟩

/-- A reader that accepts its options read well-formed options there. -/
theorem logged_of_nestedFrom (h : AcceptsWellFormed step) :
    ∀ (fuel : Nat) (st : σ) (ts : List Token) (o : σ), nestedFrom step fuel st ts = .ok o →
      ∀ acc, ∃ items, nestedFrom logSetting fuel acc ts = .ok (acc ++ items) ∧
        ∀ s ∈ items, s.WellFormed
  | _, _, [], _, _, acc => ⟨[], by rw [nestedFrom.eq_1, List.append_nil]; rfl, by simp⟩
  | 0, _, t :: ts, _, _, acc =>
    ⟨[], by rw [nestedFrom.eq_2 _ _ _ (List.cons_ne_nil t ts), List.append_nil]; rfl, by simp⟩
  | fuel + 1, st, t :: ts, o, hreal, acc => by
    rw [nestedFrom.eq_3 _ _ _ _ (List.cons_ne_nil t ts)] at hreal
    obtain ⟨⟨path, rest⟩, hpath, hreal⟩ := bind_eq_ok.1 hreal
    dsimp only at hreal
    obtain ⟨⟨st', rest'⟩, hstep, hreal⟩ := bind_eq_ok.1 hreal
    dsimp only at hreal
    rw [nestedFrom.eq_3 _ _ _ _ (List.cons_ne_nil t ts), hpath, ok_bind]
    dsimp only
    split at hreal
    · -- nothing follows: the option read is the last
      obtain ⟨s, hread, hs⟩ := h st path rest st' [] hstep (.inl rfl)
      rw [logSetting_of_read hread, ok_bind]
      exact ⟨[s], rfl, by simpa using hs⟩
    · -- a comma: the options after it are read the same way
      rename_i j more
      obtain ⟨s, hread, hs⟩ := h st path rest st' _ hstep (.inr ⟨j, more, rfl⟩)
      obtain ⟨items, hlog, hwf⟩ := logged_of_nestedFrom h fuel st' more o hreal (acc ++ [s])
      rw [logSetting_of_read hread, ok_bind]
      refine ⟨s :: items, by simpa using hlog, ?_⟩
      intro s' hs'
      rcases List.mem_cons.1 hs' with rfl | hs'
      · exact hs
      · exact hwf s' hs'
    · cases hreal

/-- Over the `aggregate` attributes' options read as well-formed ones, a reader that
knows the paths refuses or applies each option in turn. -/
theorem readOptions_of_logged (h : ReadsBy step fault apply) :
    ∀ (metas : List Meta) (acc r : List Setting), readOptions logSetting acc metas = .ok r →
      (∀ s ∈ r, s.WellFormed) → ∃ items, r = acc ++ items ∧
        ∀ st, readOptions step st metas = items.foldlM (applyOption fault apply) st
  | [], acc, r, hlog, _ => ⟨[], by simpa using (pure_eq_ok.1 hlog).symm, fun _ => rfl⟩
  | m :: ms, acc, r, hlog, hwf => by
    unfold readOptions at hlog
    rw [List.foldlM_cons] at hlog
    obtain ⟨acc', hm, hrest⟩ := bind_eq_ok.1 hlog
    obtain ⟨items₂, rfl, hreal₂⟩ := readOptions_of_logged h ms acc' _ hrest hwf
    obtain ⟨args, hargs, hm⟩ := bind_eq_ok.1 hm
    cases args with
    | none =>
      -- an attribute with another path gives no option
      cases pure_eq_ok.1 hm
      refine ⟨items₂, rfl, fun st => ?_⟩
      unfold readOptions
      rw [List.foldlM_cons, hargs, ok_bind]
      exact hreal₂ st
    | some args =>
      obtain ⟨items₁, rfl, hreal₁⟩ := nestedFrom_of_logged h args.length args acc _ hm
        fun s hs => hwf s (List.mem_append_left _ hs)
      refine ⟨items₁ ++ items₂, by simp, fun st => ?_⟩
      unfold readOptions
      rw [List.foldlM_cons, hargs, ok_bind, List.foldlM_append]
      dsimp only
      rw [nestedItems, hreal₁ st]
      exact congrArg _ (funext hreal₂)

/-- A reader of `aggregate` attributes that accepts them read well-formed options there. -/
theorem logged_of_readOptions (h : AcceptsWellFormed step) :
    ∀ (metas : List Meta) (st o : σ), readOptions step st metas = .ok o →
      ∀ acc, ∃ items, readOptions logSetting acc metas = .ok (acc ++ items) ∧
        ∀ s ∈ items, s.WellFormed
  | [], _, _, _, acc => ⟨[], by rw [List.append_nil]; rfl, by simp⟩
  | m :: ms, st, o, hreal, acc => by
    unfold readOptions at hreal
    rw [List.foldlM_cons] at hreal
    obtain ⟨st', hm, hrest⟩ := bind_eq_ok.1 hreal
    obtain ⟨args, hargs, hm⟩ := bind_eq_ok.1 hm
    unfold readOptions
    rw [List.foldlM_cons, hargs, ok_bind]
    cases args with
    | none =>
      obtain rfl := pure_eq_ok.1 hm
      exact logged_of_readOptions h ms _ o hrest acc
    | some args =>
      obtain ⟨items₁, hlog₁, hwf₁⟩ :=
        logged_of_nestedFrom h args.length st args st' hm acc
      obtain ⟨items₂, hlog₂, hwf₂⟩ :=
        logged_of_readOptions h ms st' o hrest (acc ++ items₁)
      refine ⟨items₁ ++ items₂, ?_, fun s hs => ?_⟩
      · dsimp only
        rw [nestedItems, hlog₁, ok_bind, ← List.append_assoc]
        exact hlog₂
      · rcases List.mem_append.1 hs with hs | hs
        · exact hwf₁ s hs
        · exact hwf₂ s hs

/-- A fold of options succeeds when no option is refused, with every option applied. -/
theorem foldlM_applyOption_eq_ok :
    ∀ {items : List Setting} {st r : σ},
      items.foldlM (applyOption fault apply) st = .ok r ↔
        (∀ s ∈ items, fault s = none) ∧ r = items.foldl apply st
  | [], st, r => by
    rw [List.foldlM_nil, pure_eq_ok]
    simp [eq_comm]
  | s :: rest, st, r => by
    rw [List.foldlM_cons]
    cases hs : fault s with
    | some e =>
      -- a refused option ends the fold
      have hstep : applyOption fault apply st s = .error e := by simp [applyOption, hs]
      rw [hstep, error_bind]
      simp [hs]
    | none =>
      have hstep : applyOption fault apply st s = .ok (apply st s) := by simp [applyOption, hs]
      rw [hstep, ok_bind, foldlM_applyOption_eq_ok]
      simp [hs]

/-- A fold of options fails with the refusal of its first refused option. -/
theorem failureOf_foldlM_applyOption (items : List Setting) (st : σ) :
    failureOf (items.foldlM (applyOption fault apply) st) = items.findSome? fault := by
  rw [failureOf_foldlM fault (fun s => [s]) (fun b s _ => ?_) st, List.flatMap_singleton']
  unfold applyOption
  cases h : fault s <;> simp [h]

/-- Over the options read as well-formed ones, the reader is the fold of its options. -/
theorem readOptions_eq_foldlM (h : ReadsBy step fault apply) {metas : List Meta}
    {ss : List Setting} (hlog : readOptions logSetting [] metas = .ok ss)
    (hwf : ∀ s ∈ ss, s.WellFormed) (st : σ) :
    readOptions step st metas = ss.foldlM (applyOption fault apply) st := by
  obtain ⟨items, hss, hreal⟩ := readOptions_of_logged h metas [] ss hlog hwf
  rw [hss, List.nil_append]
  exact hreal st

/-- A reader that accepts the `aggregate` attributes read there well-formed options none
of which it refuses, and its result has them all applied. -/
theorem readOptions_eq_ok (hreads : ReadsBy step fault apply) (hacc : AcceptsWellFormed step)
    {metas : List Meta} {st o : σ} (h : readOptions step st metas = .ok o) :
    ∃ ss, readOptions logSetting [] metas = .ok ss ∧ (∀ s ∈ ss, s.WellFormed) ∧
      (∀ s ∈ ss, fault s = none) ∧ o = ss.foldl apply st := by
  obtain ⟨ss, hlog, hwf⟩ := logged_of_readOptions hacc metas st o h []
  rw [List.nil_append] at hlog
  rw [readOptions_eq_foldlM hreads hlog hwf, foldlM_applyOption_eq_ok] at h
  exact ⟨ss, hlog, hwf, h⟩

end Reading

/-! ## Last options -/

theorem lastValue_append_singleton (name : String) (ss : List Setting) (s : Setting) :
    lastValue name (ss ++ [s]) = if s.path.isIdent name then s.value else lastValue name ss := by
  unfold lastValue
  by_cases hs : s.path.isIdent name <;> simp [List.filter_append, hs]

theorem isGiven_append_singleton (name : String) (ss : List Setting) (s : Setting) :
    isGiven name (ss ++ [s]) = (isGiven name ss || s.path.isIdent name) := by
  simp [isGiven, List.any_append]

/-! ## The struct's and the fields' readers -/

/-- The field settings after one option: `skip` leaves the field out and `rename` names
it. -/
def FieldOptions.apply (o : FieldOptions) (s : Setting) : FieldOptions :=
  if s.path.isIdent "skip" then { o with skip := true }
  else if s.path.isIdent "rename" then { o with rename := s.value } else o

/-- The refusal of a field option: any path but `skip` and `rename`. -/
def fieldFault (s : Setting) : Option String :=
  if s.path.isIdent "skip" || s.path.isIdent "rename" then none
  else some "unsupported aggregate field attribute"

/-- The struct settings after one option: `rename_all` sets the rule its text names and
`type_name` the type name. -/
def StructOptions.apply (o : StructOptions) (s : Setting) : StructOptions :=
  if s.path.isIdent "rename_all" then { o with renameAll := s.value.bind RenameRule.parse? }
  else if s.path.isIdent "type_name" then { o with typeName := s.value } else o

/-- The refusal of a struct option: a `rename_all` whose text names no rule, or any path
but `rename_all` and `type_name`. -/
def structFault (s : Setting) : Option String :=
  if s.path.isIdent "rename_all" then
    if (s.value.bind RenameRule.parse?).isSome then none
    else some ("unknown rename_all value: \"" ++ s.value.getD "" ++ "\". Expected one of: " ++
      ruleNames)
  else if s.path.isIdent "type_name" then none
  else some "unsupported aggregate attribute"

/-- The texts that name a rule. -/
theorem RenameRule.isSome_parse? {v : String} :
    (RenameRule.parse? v).isSome ↔ v ∈ ["lowercase", "UPPERCASE", "camelCase", "PascalCase",
      "snake_case", "SCREAMING_SNAKE_CASE", "kebab-case"] := by
  unfold RenameRule.parse?
  split <;> simp_all

/-- The struct options that are not refused: a `type_name`, and a `rename_all` whose text
is the name of a rule. -/
theorem structFault_eq_none {s : Setting} :
    structFault s = none ↔ s.path.isIdent "type_name" ∨
      s.path.isIdent "rename_all" ∧ ∃ v ∈ ["lowercase", "UPPERCASE", "camelCase", "PascalCase",
        "snake_case", "SCREAMING_SNAKE_CASE", "kebab-case"], s.value = some v := by
  unfold structFault
  by_cases hall : s.path.isIdent "rename_all"
  · -- a `rename_all` option is no `type_name` one
    rw [if_pos hall, Path.isIdent_of_isIdent hall "type_name"]
    cases s.value with
    | none => simp
    | some v =>
      rw [Option.bind_some]
      by_cases hp : (RenameRule.parse? v).isSome
      · rw [if_pos hp]
        exact iff_of_true rfl (.inr ⟨hall, v, RenameRule.isSome_parse?.1 hp, rfl⟩)
      · rw [if_neg hp]
        refine iff_of_false (by simp) ?_
        rintro (h | ⟨-, w, hw, hvw⟩)
        · simp at h
        · cases hvw
          exact hp (RenameRule.isSome_parse?.2 hw)
  · by_cases htype : s.path.isIdent "type_name" <;> simp [hall, htype]

/-- A path that takes a text has one in a well-formed option. -/
theorem Setting.value_of_wellFormed {s : Setting} (hs : s.WellFormed)
    (h : (s.path.isIdent "rename_all" || s.path.isIdent "type_name" ||
      s.path.isIdent "rename") = true) : ∃ v, s.value = some v :=
  Option.isSome_iff_exists.1 (hs ▸ h)

theorem fieldStep_readsBy : ReadsBy fieldStep fieldFault FieldOptions.apply := by
  intro o p ts s rest hread hwf
  obtain ⟨rfl, hnone, hsome⟩ := Setting.read_eq_ok hread
  unfold fieldStep
  by_cases hskip : s.path.isIdent "skip"
  · -- `skip` takes no text, so nothing was read after it
    have hv : s.value = none := by
      have hbare := hwf
      simp only [Setting.WellFormed, Path.isIdent_of_isIdent hskip] at hbare
      exact Option.not_isSome_iff_eq_none.1 (by simpa using hbare.symm)
    rw [if_pos hskip, hnone hv]
    simp [applyOption, fieldFault, FieldOptions.apply, hskip]
  · by_cases hrename : s.path.isIdent "rename"
    · obtain ⟨v, hv⟩ := s.value_of_wellFormed hwf (by simp [hrename])
      rw [if_neg hskip, if_pos hrename, hsome v hv, ok_bind]
      simp [applyOption, fieldFault, FieldOptions.apply, hskip, hrename, hv]
    · rw [if_neg hskip, if_neg hrename]
      simp [applyOption, fieldFault, hskip, hrename]
      rfl

theorem fieldStep_accepts : AcceptsWellFormed fieldStep := by
  intro o p ts o' rest hstep hcont
  unfold fieldStep at hstep
  by_cases hskip : p.isIdent "skip"
  · rw [if_pos hskip] at hstep
    cases hstep
    refine ⟨⟨p, none⟩, Setting.read_of_continues hcont, ?_⟩
    simp [Setting.WellFormed, Path.isIdent_of_isIdent hskip]
  · by_cases hrename : p.isIdent "rename"
    · rw [if_neg hskip, if_pos hrename] at hstep
      obtain ⟨⟨v, rest'⟩, hv, hpair⟩ := bind_eq_ok.1 hstep
      cases hpair
      exact ⟨⟨p, some v⟩, Setting.read_of_stringValue hv,
        by simp [Setting.WellFormed, hrename]⟩
    · rw [if_neg hskip, if_neg hrename] at hstep
      cases hstep

theorem structStep_readsBy : ReadsBy structStep structFault StructOptions.apply := by
  intro o p ts s rest hread hwf
  obtain ⟨rfl, -, hsome⟩ := Setting.read_eq_ok hread
  unfold structStep
  by_cases hall : s.path.isIdent "rename_all"
  · obtain ⟨v, hv⟩ := s.value_of_wellFormed hwf (by simp [hall])
    rw [if_pos hall, hsome v hv, ok_bind]
    dsimp only
    -- the text names a rule, or the option is refused
    cases hrule : RenameRule.parse? v with
    | some r => simp [applyOption, structFault, StructOptions.apply, hall, hv, hrule]
    | none =>
      simp [applyOption, structFault, hall, hv, hrule]
      rfl
  · by_cases htype : s.path.isIdent "type_name"
    · obtain ⟨v, hv⟩ := s.value_of_wellFormed hwf (by simp [htype])
      rw [if_neg hall, if_pos htype, hsome v hv, ok_bind]
      simp [applyOption, structFault, StructOptions.apply, hall, htype, hv]
    · rw [if_neg hall, if_neg htype]
      simp [applyOption, structFault, hall, htype]
      rfl

theorem structStep_accepts : AcceptsWellFormed structStep := by
  intro o p ts o' rest hstep hcont
  unfold structStep at hstep
  by_cases hall : p.isIdent "rename_all"
  · rw [if_pos hall] at hstep
    obtain ⟨⟨v, rest'⟩, hv, hrest⟩ := bind_eq_ok.1 hstep
    have hrest' : rest' = rest := by
      dsimp only at hrest
      split at hrest
      · cases hrest
        rfl
      · cases hrest
    subst hrest'
    exact ⟨⟨p, some v⟩, Setting.read_of_stringValue hv, by simp [Setting.WellFormed, hall]⟩
  · by_cases htype : p.isIdent "type_name"
    · rw [if_neg hall, if_pos htype] at hstep
      obtain ⟨⟨v, rest'⟩, hv, hpair⟩ := bind_eq_ok.1 hstep
      cases hpair
      exact ⟨⟨p, some v⟩, Setting.read_of_stringValue hv,
        by simp [Setting.WellFormed, htype]⟩
    · rw [if_neg hall, if_neg htype] at hstep
      cases hstep

/-! ## Settings after all options -/

@[simp] theorem FieldOptions.skip_apply (o : FieldOptions) (s : Setting) :
    (o.apply s).skip = (o.skip || s.path.isIdent "skip") := by
  unfold FieldOptions.apply
  by_cases hskip : s.path.isIdent "skip" <;> by_cases hrename : s.path.isIdent "rename" <;>
    simp [hskip, hrename]

@[simp] theorem FieldOptions.rename_apply (o : FieldOptions) (s : Setting) :
    (o.apply s).rename = if s.path.isIdent "rename" then s.value else o.rename := by
  unfold FieldOptions.apply
  by_cases hskip : s.path.isIdent "skip"
  · -- a `skip` option is no `rename` one
    simp [hskip, Path.isIdent_of_isIdent hskip]
  · by_cases hrename : s.path.isIdent "rename" <;> simp [hskip, hrename]

@[simp] theorem StructOptions.renameAll_apply (o : StructOptions) (s : Setting) :
    (o.apply s).renameAll =
      if s.path.isIdent "rename_all" then s.value.bind RenameRule.parse? else o.renameAll := by
  unfold StructOptions.apply
  by_cases hall : s.path.isIdent "rename_all" <;> by_cases htype : s.path.isIdent "type_name" <;>
    simp [hall, htype]

@[simp] theorem StructOptions.typeName_apply (o : StructOptions) (s : Setting) :
    (o.apply s).typeName = if s.path.isIdent "type_name" then s.value else o.typeName := by
  unfold StructOptions.apply
  by_cases hall : s.path.isIdent "rename_all"
  · -- a `rename_all` option is no `type_name` one
    simp [hall, Path.isIdent_of_isIdent hall]
  · by_cases htype : s.path.isIdent "type_name" <;> simp [hall, htype]

/-- A setting that each option with path `name` sets to its text through `f`, and that
other options leave alone, ends as the last such text through `f`. -/
theorem foldl_eq_lastValue {σ β : Type} {apply : σ → Setting → σ} {get : σ → β}
    {name : String} {f : Option String → β}
    (hstep : ∀ o s, get (apply o s) = if s.path.isIdent name then f s.value else get o)
    {init : σ} (hinit : get init = f none) (ss : List Setting) :
    get (ss.foldl apply init) = f (lastValue name ss) := by
  induction ss using List.reverseRecOn with
  | nil => exact hinit
  | append_singleton ss s ih =>
    rw [List.foldl_append, List.foldl_cons, List.foldl_nil, hstep, ih, lastValue_append_singleton]
    exact (apply_ite f _ _ _).symm

theorem skip_foldl_apply (ss : List Setting) :
    (ss.foldl FieldOptions.apply {}).skip = isGiven "skip" ss := by
  induction ss using List.reverseRecOn with
  | nil => rfl
  | append_singleton ss s ih =>
    rw [List.foldl_append, List.foldl_cons, List.foldl_nil, FieldOptions.skip_apply, ih,
      isGiven_append_singleton]

theorem rename_foldl_apply (ss : List Setting) :
    (ss.foldl FieldOptions.apply {}).rename = lastValue "rename" ss :=
  foldl_eq_lastValue (f := id) FieldOptions.rename_apply rfl ss

theorem renameAll_foldl_apply (ss : List Setting) :
    (ss.foldl StructOptions.apply {}).renameAll =
      (lastValue "rename_all" ss).bind RenameRule.parse? :=
  foldl_eq_lastValue (f := (·.bind RenameRule.parse?)) StructOptions.renameAll_apply rfl ss

theorem typeName_foldl_apply (ss : List Setting) :
    (ss.foldl StructOptions.apply {}).typeName = lastValue "type_name" ss :=
  foldl_eq_lastValue (f := id) StructOptions.typeName_apply rfl ss


/-! ## The fuel of nested items

`nestedItems` gives `nestedFrom` as much fuel as there are tokens, and `nestedFrom` stops
quietly when the fuel runs out. It never runs out there: each item reads its path, which
takes a token at least, and its reader leaves no more tokens than it was given, and a comma
goes before the next item. So once the fuel covers the tokens, more fuel changes nothing
(`nestedFrom_eq_nestedItems`). -/

section Fuel

variable {σ : Type} {step : σ → Path → List Token → Except String (σ × List Token)}

/-- A reader of what follows a path that leaves no more tokens than it was given. -/
def KeepsLength (step : σ → Path → List Token → Except String (σ × List Token)) : Prop :=
  ∀ st p ts st' rest, step st p ts = .ok (st', rest) → rest.length ≤ ts.length

theorem leadingColons_length (ts : List Token) : (leadingColons ts).2.length ≤ ts.length := by
  unfold leadingColons
  split
  · simp only [List.length_cons]
    omega
  · exact Nat.le_refl _

theorem moreSegments_length {word : String → Bool} {missing : String} {ts : List Token}
    {acc segs : List String} {rest : List Token}
    (h : moreSegments word missing ts acc = .ok (segs, rest)) : rest.length ≤ ts.length := by
  fun_induction moreSegments word missing ts acc with
  | case1 _ _ _ _ _ ih =>
    -- `::` and the segment are read before the rest
    have := ih h
    simp only [List.length_cons]
    omega
  | case2 => nomatch h
  | case3 => nomatch h
  | case4 =>
    cases pure_eq_ok.1 h
    exact Nat.le_refl _

theorem nestedPath_length {ts rest : List Token} {p : Path} (h : nestedPath ts = .ok (p, rest)) :
    rest.length < ts.length := by
  have hlead := leadingColons_length ts
  unfold nestedPath at h
  rcases hl : leadingColons ts with ⟨leading, ts'⟩
  rw [hl] at h hlead
  dsimp only at h
  split at h
  · -- the path's first word is read, then the segments after it
    obtain ⟨⟨segs, more⟩, hseg, hp⟩ := bind_eq_ok.1 h
    dsimp only at hp
    cases (pure_eq_ok.1 hp)
    have := moreSegments_length hseg
    simp only [List.length_cons] at hlead
    omega
  · nomatch h
  · split at h <;> nomatch h

theorem stringValue_length {ts rest : List Token} {v : String}
    (h : stringValue ts = .ok (v, rest)) : rest.length ≤ ts.length := by
  unfold stringValue at h
  split at h
  · split at h
    · cases (pure_eq_ok.1 h)
      simp only [List.length_cons]
      omega
    · nomatch h
  · nomatch h

theorem structStep_keepsLength : KeepsLength structStep := by
  intro o p ts o' rest h
  unfold structStep at h
  split at h
  · obtain ⟨⟨v, more⟩, hv, h⟩ := bind_eq_ok.1 h
    dsimp only at h
    split at h
    · cases pure_eq_ok.1 h
      exact stringValue_length hv
    · nomatch h
  · split at h
    · obtain ⟨⟨v, more⟩, hv, h⟩ := bind_eq_ok.1 h
      cases pure_eq_ok.1 h
      exact stringValue_length hv
    · nomatch h

theorem fieldStep_keepsLength : KeepsLength fieldStep := by
  intro o p ts o' rest h
  unfold fieldStep at h
  split at h
  · cases pure_eq_ok.1 h
    exact Nat.le_refl _
  · split at h
    · obtain ⟨⟨v, more⟩, hv, h⟩ := bind_eq_ok.1 h
      cases pure_eq_ok.1 h
      exact stringValue_length hv
    · nomatch h

theorem logSetting_keepsLength : KeepsLength logSetting := by
  intro acc p ts acc' rest h
  obtain ⟨s, _, hread, hpair⟩ := logSetting_eq_ok.1 h
  cases hpair
  by_cases hv : s.value = none
  · exact Nat.le_of_eq (congrArg List.length ((Setting.read_eq_ok hread).2.1 hv))
  · obtain ⟨v, hv⟩ := Option.ne_none_iff_exists'.1 hv
    exact stringValue_length ((Setting.read_eq_ok hread).2.2 v hv)

/-- Once the fuel covers the tokens, one more unit of it changes nothing: every item and
its comma take a token at least, so the fuel left still covers the tokens left. -/
theorem nestedFrom_succ (h : KeepsLength step) :
    ∀ (fuel : Nat) (st : σ) (ts : List Token), ts.length ≤ fuel →
      nestedFrom step (fuel + 1) st ts = nestedFrom step fuel st ts
  | _, _, [], _ => by rw [nestedFrom.eq_1, nestedFrom.eq_1]
  | 0, _, t :: ts, hlen => absurd hlen (by simp)
  | fuel + 1, st, t :: ts, hlen => by
    rw [nestedFrom.eq_3 _ _ _ _ (List.cons_ne_nil t ts),
      nestedFrom.eq_3 _ _ _ _ (List.cons_ne_nil t ts)]
    cases hpath : nestedPath (t :: ts) with
    | error e => rfl
    | ok pr =>
      obtain ⟨path, rest⟩ := pr
      have hshort := nestedPath_length hpath
      rw [ok_bind, ok_bind]
      dsimp only
      cases hstep : step st path rest with
      | error e => rfl
      | ok sr =>
        obtain ⟨st', rest'⟩ := sr
        have hkept := h st path rest st' rest' hstep
        rw [ok_bind, ok_bind]
        dsimp only
        split
        · rfl
        · -- the items after the comma, with fuel to spare
          rename_i j more
          simp only [List.length_cons] at hshort hkept hlen
          exact nestedFrom_succ h fuel st' more (by omega)
        · rfl

/-- The fuel `nestedItems` gives is never exhausted: any fuel that covers the tokens reads
them the same. -/
theorem nestedFrom_eq_nestedItems (h : KeepsLength step) {fuel : Nat} {st : σ}
    {ts : List Token} (hfuel : ts.length ≤ fuel) :
    nestedFrom step fuel st ts = nestedItems step st ts := by
  obtain ⟨k, rfl⟩ := Nat.exists_eq_add_of_le hfuel
  -- on the fuel beyond the tokens' count
  induction k with
  | zero => rfl
  | succ k ih => rw [← Nat.add_assoc, nestedFrom_succ h _ _ _ (by omega), ih (by omega)]

/-- The derive's readers, of struct options, of field options and of options whatever their
paths, never run out of the fuel `nestedItems` gives them. -/
theorem nestedItems_fuel_suffices {fuel : Nat} {ts : List Token} (hfuel : ts.length ≤ fuel) :
    (∀ o, nestedFrom structStep fuel o ts = nestedItems structStep o ts) ∧
      (∀ o, nestedFrom fieldStep fuel o ts = nestedItems fieldStep o ts) ∧
      ∀ acc, nestedFrom logSetting fuel acc ts = nestedItems logSetting acc ts :=
  ⟨fun _ => nestedFrom_eq_nestedItems structStep_keepsLength hfuel,
    fun _ => nestedFrom_eq_nestedItems fieldStep_keepsLength hfuel,
    fun _ => nestedFrom_eq_nestedItems logSetting_keepsLength hfuel⟩

end Fuel

end HttpBlueprint.Derive
