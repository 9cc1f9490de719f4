import HttpBlueprint.Proofs.DeriveOptions
/-!
# What a derived aggregate lists, and why a derive is refused

`deriveAggregate` reads every attribute before it applies any. Over declarations whose
`aggregate` options are read (`optionsOf`), both outcomes are stated in terms of those
options as written:

* a derive of well-formed options fails with the first refused struct option, else the
  refusal of the item's kind, else the first refused field option, a skipped field's
  included (`deriveAggregate_failure`);
* an accepted derive lists the fields with no `skip` option in declaration order, each
  under its key, names the type after the last `type_name`, and pairs each key with the
  value of its own field (`deriveAggregate_layout`).

Both rest on the fold over the fields (`keptFold_eq_ok`, `failureOf_keptFold`), whose
step reads one field's options with `fieldStep` and so, by `DeriveOptions`, applies them
one after the other.
-/

namespace HttpBlueprint.Derive

/-! ## What the options give -/

/-- The rule of the last `rename_all` option, when its text names one. -/
def renameRule (ss : List Setting) : Option RenameRule :=
  (lastValue "rename_all" ss).bind RenameRule.parse?

/-- The key of a field with identifier `ident` and options `fs` under `rule`: its last
rename, else the rule applied to the identifier without `r#`, else that identifier
without `r#`. -/
def keyFor (rule : Option RenameRule) (ident : String) (fs : List Setting) : String :=
  (lastValue "rename" fs).getD ((rule.map fun r => r.apply (stripRaw ident)).getD (stripRaw ident))

/-- The fields listed, in declaration order and each with its options: those with no
`skip` option. -/
def listed (fields : List FieldDecl) (fos : List (List Setting)) :
    List (FieldDecl × List Setting) :=
  (fields.zip fos).filter fun p => !isGiven "skip" p.2

/-- The refusal of an item's kind: only a struct with named fields is derived. -/
def kindFault : ItemKind → Option String
  | .namedStruct => none
  | .tupleStruct | .unitStruct => some "Aggregate derive only supports structs with named fields"
  | .enumeration | .union => some "Aggregate derive only supports structs"

theorem fieldKey_foldl_apply (rule : Option RenameRule) (f : FieldDecl) (fs : List Setting) :
    fieldKey rule f (fs.foldl FieldOptions.apply {}) = keyFor rule f.ident fs := by
  unfold fieldKey keyFor
  rw [rename_foldl_apply]
  cases lastValue "rename" fs <;> cases rule <;> rfl

/-! ## The attributes read -/

/-- The options of some attributes are read when their tokens and forms are, with no
token left in any form. -/
theorem optionsOf_eq_ok {attrs : List Attribute} {ss : List Setting} :
    optionsOf attrs = .ok ss ↔ ∃ ts ms, attributeTokens attrs = .ok ts ∧
      readMetas ts = .ok ms ∧ ms.any (!·.2.isEmpty) = false ∧
      readOptions logSetting [] (ms.map (·.1)) = .ok ss := by
  unfold optionsOf
  constructor
  · intro h
    obtain ⟨ts, hts, h⟩ := bind_eq_ok.1 h
    obtain ⟨ms, hms, h⟩ := bind_eq_ok.1 h
    dsimp only at h
    -- the check for tokens left passed
    split at h
    · cases h
    · rename_i hany
      exact ⟨ts, ms, hts, hms, Bool.eq_false_iff.2 hany, h⟩
  · rintro ⟨ts, ms, hts, hms, hany, hlog⟩
    rw [hts, ok_bind, hms, ok_bind]
    dsimp only
    rw [hany]
    exact hlog

/-- The options of every field, read as the derive reads the fields' attributes. -/
theorem fieldsRead_of_optionsOf {fields : List FieldDecl} {fos : List (List Setting)}
    (h : List.Forall₂ (fun f fs => optionsOf f.attrs = .ok fs) fields fos) :
    ∃ ft fm, List.Forall₂ (fun f ts => attributeTokens f.attrs = .ok ts) fields ft ∧
      List.Forall₂ (fun ts ms => readMetas ts = .ok ms) ft fm ∧
      fm.flatten.any (!·.2.isEmpty) = false ∧
      List.Forall₂ (fun ms fs => readOptions logSetting [] (ms.map (·.1)) = .ok fs) fm fos := by
  induction h with
  | nil => exact ⟨[], [], .nil, .nil, rfl, .nil⟩
  | cons hf _ ih =>
    obtain ⟨ts, ms, hts, hms, hany, hlog⟩ := optionsOf_eq_ok.1 hf
    obtain ⟨ft, fm, hft, hfm, hanys, hlogs⟩ := ih
    refine ⟨ts :: ft, ms :: fm, .cons hts hft, .cons hms hfm, ?_, .cons hlog hlogs⟩
    rw [List.flatten_cons, List.any_append, hany, hanys, Bool.or_false]

/-- The fields' attributes, read as the derive reads them, give each field's options. -/
theorem optionsOf_of_fieldsRead {fields : List FieldDecl} {ft : List (List (List Token))}
    {fm : List (List (Meta × List Token))} {fos : List (List Setting)}
    (hft : List.Forall₂ (fun f ts => attributeTokens f.attrs = .ok ts) fields ft)
    (hfm : List.Forall₂ (fun ts ms => readMetas ts = .ok ms) ft fm)
    (hany : fm.flatten.any (!·.2.isEmpty) = false)
    (hlog : List.Forall₂ (fun ms fs => readOptions logSetting [] (ms.map (·.1)) = .ok fs)
      fm fos) :
    List.Forall₂ (fun f fs => optionsOf f.attrs = .ok fs) fields fos := by
  induction hft generalizing fm fos with
  | nil =>
    cases hfm
    cases hlog
    exact .nil
  | cons hts _ ih =>
    cases hfm with
    | cons hms hfm =>
      cases hlog with
      | cons hl hlog =>
        rw [List.flatten_cons, List.any_append, Bool.or_eq_false_iff] at hany
        exact .cons (optionsOf_eq_ok.2 ⟨_, _, hts, hms, hany.1, hl⟩) (ih hfm hany.2 hlog)

/-! ## The fold over the fields -/

/-- The step of the fold over the fields: read the field's options, then keep the field
under its key unless it is skipped. -/
def KeepsBy (rule : Option RenameRule)
    (g : List (String × String) → FieldDecl × List (Meta × List Token) →
      Except String (List (String × String))) : Prop :=
  ∀ acc f ms, g acc (f, ms) = readOptions fieldStep {} (ms.map (·.1)) >>= fun fo =>
    pure (if fo.skip then acc else acc ++ [(fieldKey rule f fo, f.ident)])

section Fields

variable {rule : Option RenameRule}
  {g : List (String × String) → FieldDecl × List (Meta × List Token) →
    Except String (List (String × String))}

/-- A fold over the fields that succeeds read well-formed options for every field, and
kept the fields with no `skip` option, each under its key. -/
theorem keptFold_eq_ok (hg : KeepsBy rule g) :
    ∀ {fields : List FieldDecl} {fm : List (List (Meta × List Token))}
      {acc kept : List (String × String)},
      fields.length = fm.length → (fields.zip fm).foldlM g acc = .ok kept →
      ∃ fos, List.Forall₂ (fun ms fs => readOptions logSetting [] (ms.map (·.1)) = .ok fs ∧
          ∀ s ∈ fs, s.WellFormed) fm fos ∧
        kept = acc ++ (listed fields fos).map fun p => (keyFor rule p.1.ident p.2, p.1.ident)
  | [], [], acc, kept, _, h => ⟨[], .nil, by simpa [listed] using (pure_eq_ok.1 h).symm⟩
  | f :: fields, ms :: fm, acc, kept, hlen, h => by
    rw [List.zip_cons_cons, List.foldlM_cons] at h
    obtain ⟨acc', hstep, hrest⟩ := bind_eq_ok.1 h
    rw [hg] at hstep
    obtain ⟨fo, hfo, hacc'⟩ := bind_eq_ok.1 hstep
    obtain ⟨fs, hlog, hwf, -, rfl⟩ := readOptions_eq_ok fieldStep_readsBy fieldStep_accepts hfo
    obtain rfl := pure_eq_ok.1 hacc'
    obtain ⟨fos, hlogs, rfl⟩ := keptFold_eq_ok hg (Nat.succ.inj hlen) hrest
    refine ⟨fs :: fos, .cons ⟨hlog, hwf⟩ hlogs, ?_⟩
    -- the field is kept exactly when it has no `skip` option
    rw [skip_foldl_apply, fieldKey_foldl_apply]
    cases hskip : isGiven "skip" fs <;> simp [listed, hskip]
  | [], _ :: _, _, _, hlen, _ => by simp at hlen
  | _ :: _, [], _, _, hlen, _ => by simp at hlen

/-- Over well-formed options, the fold over the fields fails with the first refused
field option, a skipped field's included. -/
theorem failureOf_keptFold (hg : KeepsBy rule g) :
    ∀ {fields : List FieldDecl} {fm : List (List (Meta × List Token))}
      {fos : List (List Setting)} {acc : List (String × String)},
      fields.length = fm.length →
      List.Forall₂ (fun ms fs => readOptions logSetting [] (ms.map (·.1)) = .ok fs) fm fos →
      (∀ s ∈ fos.flatten, s.WellFormed) →
      failureOf ((fields.zip fm).foldlM g acc) = fos.flatten.findSome? fieldFault
  | [], [], [], _, _, _, _ => rfl
  | f :: fields, ms :: fm, fs :: fos, acc, hlen, .cons hlog hlogs, hwf => by
    rw [List.zip_cons_cons, List.foldlM_cons, List.flatten_cons]
    rw [List.flatten_cons, List.forall_mem_append] at hwf
    refine failureOf_bind ?_ fun _ _ => failureOf_keptFold hg (Nat.succ.inj hlen) hlogs hwf.2
    rw [hg, failureOf_bind_of_ok fun _ _ => rfl,
      readOptions_eq_foldlM fieldStep_readsBy hlog hwf.1, failureOf_foldlM_applyOption]
  | [], _ :: _, _, _, hlen, _, _ => by simp at hlen
  | _ :: _, [], _, _, hlen, _, _ => by simp at hlen

end Fields

/-! ## Refusals -/

/-- Over well-formed options, a derive fails with the first refused struct option, else
the refusal of the item's kind, else the first refused field option in field order, the
options of a skipped field included; it succeeds when none is refused. -/
theorem deriveAggregate_failure {d : Decl} {so : List Setting} {fos : List (List Setting)}
    (hso : optionsOf d.attrs = .ok so)
    (hfos : d.fields.mapM (fun f => optionsOf f.attrs) = .ok fos)
    (hwf : ∀ s ∈ so, s.WellFormed) (hwfs : ∀ s ∈ fos.flatten, s.WellFormed) :
    failureOf (deriveAggregate d) =
      (so.findSome? structFault).or
        ((kindFault d.kind).or (fos.flatten.findSome? fieldFault)) := by
  obtain ⟨st, sm, hst, hsm, hany, hlog⟩ := optionsOf_eq_ok.1 hso
  obtain ⟨ft, fm, hft, hfm, hanys, hlogs⟩ := fieldsRead_of_optionsOf (mapM_eq_ok.1 hfos)
  have hlen : d.fields.length = fm.length := hft.length_eq.trans hfm.length_eq
  unfold deriveAggregate
  rw [hst, ok_bind, mapM_eq_ok.2 hft, ok_bind, hsm, ok_bind, mapM_eq_ok.2 hfm, ok_bind]
  dsimp only
  rw [List.any_append, hany, hanys, Bool.or_false, if_neg Bool.false_ne_true]
  rw [failureOf_bind_or fun so' _ => ?_, readOptions_eq_foldlM structStep_readsBy hlog hwf,
    failureOf_foldlM_applyOption]
  -- the item's kind is checked before any field
  cases hk : d.kind with
  | namedStruct =>
    dsimp only [kindFault]
    rw [failureOf_bind_of_ok fun _ _ => rfl, Option.none_or]
    exact failureOf_keptFold (fun _ _ _ => rfl) hlen hlogs hwfs
  | tupleStruct | unitStruct | enumeration | union => rfl

/-- A tuple struct with no attributes is refused for its kind. -/
theorem deriveAggregate_failure_tuple :
    failureOf (deriveAggregate ⟨"Pair", [], .tupleStruct, [⟨"0", []⟩, ⟨"1", []⟩]⟩) =
      some "Aggregate derive only supports structs with named fields" :=
  @deriveAggregate_failure ⟨"Pair", [], .tupleStruct, [⟨"0", []⟩, ⟨"1", []⟩]⟩ [] [[], []]
    rfl rfl (by simp) (by simp)

/-! ## Accepted derives -/

/-- An accepted derive read the options of the struct and of every field, of an item that
is a struct with named fields. It lists the fields with no `skip` option in declaration
order, each under its key (`keyFor`), and names the type after the last `type_name`, else
the struct. The values the record holds are those of the listed fields in the same order,
so the record pairs each key with the value of its own field and loses none. -/
theorem deriveAggregate_layout {d : Decl} {r : Derived} (h : deriveAggregate d = .ok r) :
    ∃ so fos, optionsOf d.attrs = .ok so ∧
      d.fields.mapM (fun f => optionsOf f.attrs) = .ok fos ∧
      d.kind = .namedStruct ∧
      r.typeName = (lastValue "type_name" so).getD d.name ∧
      r.fields = (listed d.fields fos).map (fun p => keyFor (renameRule so) p.1.ident p.2) ∧
      r.valueFields = (listed d.fields fos).map (·.1.ident) ∧
      ∀ value : String → Value, (r.record value).fields =
        (listed d.fields fos).map fun p =>
          (keyFor (renameRule so) p.1.ident p.2, value p.1.ident) := by
  unfold deriveAggregate at h
  obtain ⟨st, hst, h⟩ := bind_eq_ok.1 h
  obtain ⟨ft, hft, h⟩ := bind_eq_ok.1 h
  obtain ⟨sm, hsm, h⟩ := bind_eq_ok.1 h
  obtain ⟨fm, hfm, h⟩ := bind_eq_ok.1 h
  have hlen : d.fields.length = fm.length :=
    (mapM_eq_ok.1 hft).length_eq.trans (mapM_eq_ok.1 hfm).length_eq
  dsimp only at h
  -- no tokens were left in any form
  split at h
  · cases h
  rename_i hleft
  rw [Bool.not_eq_true, List.any_append, Bool.or_eq_false_iff] at hleft
  obtain ⟨o, ho, h⟩ := bind_eq_ok.1 h
  obtain ⟨so, hlog, -, -, rfl⟩ := readOptions_eq_ok structStep_readsBy structStep_accepts ho
  have hso : optionsOf d.attrs = .ok so := optionsOf_eq_ok.2 ⟨st, sm, hst, hsm, hleft.1, hlog⟩
  -- only a struct with named fields goes on to its fields
  split at h
  next hk =>
    obtain ⟨kept, hkept, h⟩ := bind_eq_ok.1 h
    obtain rfl := pure_eq_ok.1 h
    obtain ⟨fos, hlogs, rfl⟩ := keptFold_eq_ok (fun _ _ _ => rfl) hlen hkept
    have hfos : d.fields.mapM (fun f => optionsOf f.attrs) = .ok fos :=
      mapM_eq_ok.2 (optionsOf_of_fieldsRead (mapM_eq_ok.1 hft) (mapM_eq_ok.1 hfm) hleft.2
        (hlogs.imp fun _ _ h => h.1))
    rw [renameAll_foldl_apply]
    refine ⟨so, fos, hso, hfos, hk, ?_, ?_, ?_, ?_⟩
    · rw [typeName_foldl_apply]
    · simp only [List.nil_append, List.map_map]
      rfl
    · simp only [List.nil_append, List.map_map]
      rfl
    · intro value
      simp only [Derived.record, List.nil_append, List.map_map, List.zip_map']
      rfl
  all_goals cases h

/-- A struct with no attributes lists its fields under their identifiers, a raw one
without `r#`, each paired with its own value. -/
theorem deriveAggregate_layout_raw :
    ∃ r, deriveAggregate ⟨"Point", [], .namedStruct, [⟨"x", []⟩, ⟨"r#type", []⟩]⟩ =
        .ok r ∧
      ∀ value : String → Value,
        (r.record value).fields = [("x", value "x"), ("type", value "r#type")] := by
  obtain ⟨so, fos, hso, hfos, -, -, -, -, hrecord⟩ :=
    deriveAggregate_layout
      (d := ⟨"Point", [], .namedStruct, [⟨"x", []⟩, ⟨"r#type", []⟩]⟩) rfl
  cases hso
  cases hfos
  exact ⟨_, rfl, hrecord⟩

end HttpBlueprint.Derive
