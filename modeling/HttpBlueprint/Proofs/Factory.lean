import HttpBlueprint.Proofs.Arguments
/-!
# The encoder protocol of a call

A factory hands at most one payload to its encoder in a call. It does so exactly
when its strategy encodes a body and the call gets that far: the URL argument, when
the method has one, is there and not null, the expanded arguments bind, and, when one
argument is the body, that argument is there and not null. The two body checks fail
with their own invalid-argument errors, which are not wrapped.

The payload is the bound form parameters as a form map, after those names are marked
already encoded; all expanded arguments; or the body argument, read in the expanded
vector. A failure of the encoder comes out as an encoding failure, and a success goes
on to the rest of the call (`Factory.finish`).
-/

namespace HttpBlueprint

namespace Resolver

@[simp] theorem resolve_metadata (r : Resolver) (target : Target) (m : CallMetadata) :
    (r.resolve target m).metadata = m := rfl

@[simp] theorem resolve_strategy (r : Resolver) (target : Target) (m : CallMetadata) :
    (r.resolve target m).strategy = Strategy.select m := rfl

@[simp] theorem resolve_encoder (r : Resolver) (target : Target) (m : CallMetadata) :
    (r.resolve target m).encoder = r.encoder := rfl

end Resolver

/-- The URL argument, when the method has one, is there and is not null. -/
def UrlArgumentPresent (m : CallMetadata) (argv : List Value) : Prop :=
  ∀ i, m.urlIndex = some i → ∃ v, argv[i]? = some v ∧ v.isNull = false

/-- The message of a position past the end of the arguments. -/
def outOfRangeMessage (i n : Nat) : String :=
  "argument " ++ toString i ++ " is out of range (" ++ toString n ++ " arguments)"

/-! ## Reading an argument -/

/-- A position past the end fails, naming the position and the number of arguments. -/
theorem argument_of_length_le {argv : List Value} {i : Nat} (h : argv.length ≤ i) :
    argument argv i = .error (.invalidArgument (outOfRangeMessage i argv.length)) := by
  unfold argument
  rw [List.getElem?_eq_none h]
  rfl

namespace Factory

theorem overrideTarget_eq_ok {t t' : Template} {argv : List Value} {i : Nat} :
    overrideTarget t argv i = .ok t' ↔
      ∃ v, argv[i]? = some v ∧ v.isNull = false ∧ t' = t.withTarget v.display := by
  simp only [overrideTarget, bind_eq_ok, argument_eq_ok]
  constructor
  · rintro ⟨v, hv, hrest⟩
    cases hnull : v.isNull
    · simp only [hnull, Bool.false_eq_true, if_false, pure_eq_ok] at hrest
      exact ⟨v, hv, hnull, hrest.symm⟩
    · simp [hnull, throw, throwThe, MonadExceptOf.throw] at hrest
  · rintro ⟨v, hv, hnull, rfl⟩
    exact ⟨v, hv, by simp [hnull]⟩

/-! ## Getting past binding -/

/-- A call gets a seed template exactly when its URL argument, if any, is there and
not null. -/
theorem seed_isOk {f : Factory} {argv : List Value} :
    (∃ t, f.seed argv = .ok t) ↔ UrlArgumentPresent f.metadata argv := by
  unfold Factory.seed UrlArgumentPresent
  cases hurl : f.metadata.urlIndex with
  | none => simp
  | some i =>
    simp only [overrideTarget_eq_ok, Option.some.injEq, forall_eq']
    constructor
    · rintro ⟨t, v, hv, hnull, -⟩
      exact ⟨v, hv, hnull⟩
    · rintro ⟨v, hv, hnull⟩
      exact ⟨_, v, hv, hnull, rfl⟩

/-- A call gets past binding exactly when its URL argument, if any, is there and not
null and its expanded arguments bind. -/
theorem prepare_isOk {f : Factory} {argv : List Value} :
    (∃ t vars, f.prepare argv = .ok (t, expandArguments argv f.metadata.indexToExpand, vars)) ↔
      UrlArgumentPresent f.metadata argv ∧
        ∃ vars, bindVariables (expandArguments argv f.metadata.indexToExpand)
          f.metadata.indexToName f.expanders = .ok vars := by
  simp only [prepare_eq_ok, true_and, ← seed_isOk]
  constructor
  · rintro ⟨t, vars, ht, hbind⟩
    exact ⟨⟨t, ht⟩, vars, hbind⟩
  · rintro ⟨⟨t, ht⟩, vars, hbind⟩
    exact ⟨t, vars, ht, hbind⟩

/-! ## What each strategy hands over -/

section Payload

variable {f : Factory} {t : Template} {args : List Value} {vars : Variables}

theorem payload_plain (h : f.strategy = .plain) : f.payload t args vars = .ok none := by
  simp [payload, h]

theorem payload_formEncoded (h : f.strategy = .formEncoded) :
    f.payload t args vars = .ok (some (t.markEncoded f.metadata.formParams,
      .map (vars.entries.filter fun e => f.metadata.formParams.contains e.1), .formMap)) := by
  simp [payload, h, Variables.filter, Variables.toValue]

theorem payload_arguments (h : f.strategy = .bodyEncoded) (ha : f.metadata.alwaysEncodeBody = true) :
    f.payload t args vars = .ok (some (t, .list args, .arguments)) := by
  simp [payload, h, ha]

/-- A body read at `i`: the argument there when it is not null. -/
theorem payload_body (h : f.strategy = .bodyEncoded) (ha : f.metadata.alwaysEncodeBody = false)
    {v : Value} (hv : args[f.metadata.bodyIndex.getD 0]? = some v) (hnull : v.isNull = false) :
    f.payload t args vars = .ok (some (t, v, f.metadata.bodyType)) := by
  simp only [payload, h, ha, Bool.false_eq_true, if_false, bind_eq_ok]
  exact ⟨v, argument_eq_ok.2 hv, by simp [hnull]⟩

theorem payload_body_out_of_range (h : f.strategy = .bodyEncoded)
    (ha : f.metadata.alwaysEncodeBody = false) (hlen : args.length ≤ f.metadata.bodyIndex.getD 0) :
    f.payload t args vars = .error (.invalidArgument
      (outOfRangeMessage (f.metadata.bodyIndex.getD 0) args.length)) := by
  simp only [payload, h, ha, Bool.false_eq_true, if_false, argument_of_length_le hlen]
  rfl

theorem payload_body_null (h : f.strategy = .bodyEncoded) (ha : f.metadata.alwaysEncodeBody = false)
    (hv : args[f.metadata.bodyIndex.getD 0]? = some .null) :
    f.payload t args vars = .error (.invalidArgument
      ("Body parameter " ++ toString (f.metadata.bodyIndex.getD 0) ++ " was null")) := by
  simp only [payload, h, ha, Bool.false_eq_true, if_false]
  rw [show argument args (f.metadata.bodyIndex.getD 0) = .ok .null from argument_eq_ok.2 hv]
  rfl

/-- The strategy hands something over exactly when it encodes a body and, when one
argument is the body, that argument is there and not null. -/
theorem payload_isSome :
    (∃ t' p bt, f.payload t args vars = .ok (some (t', p, bt))) ↔
      f.strategy ≠ .plain ∧ (f.strategy = .bodyEncoded → f.metadata.alwaysEncodeBody = false →
        ∃ v, args[f.metadata.bodyIndex.getD 0]? = some v ∧ v.isNull = false) := by
  cases hs : f.strategy with
  | plain => simp [payload_plain hs]
  | formEncoded => simp [payload_formEncoded hs]
  | bodyEncoded =>
    cases ha : f.metadata.alwaysEncodeBody with
    | true => simp [payload_arguments hs ha]
    | false =>
      simp only [ne_eq, reduceCtorEq, not_false_eq_true, forall_const, true_and]
      constructor
      · rintro ⟨t', p, bt, hp⟩
        -- the body check either fails or finds the argument it hands over
        cases hv : args[f.metadata.bodyIndex.getD 0]? with
        | none =>
          rw [payload_body_out_of_range hs ha (List.getElem?_eq_none_iff.1 hv)] at hp
          cases hp
        | some v =>
          cases hnull : v.isNull
          · exact ⟨v, rfl, hnull⟩
          · cases v <;> simp [Value.isNull] at hnull
            rw [payload_body_null hs ha hv] at hp
            cases hp
      · rintro ⟨v, hv, hnull⟩
        exact ⟨_, _, _, payload_body hs ha hv hnull⟩

end Payload

/-! ## The outcome of a call -/

section Outcome

variable {f : Factory} {argv : List Value} {t : Template} {args : List Value} {vars : Variables}

theorem create_of_prepare_error {e : Error} (h : f.prepare argv = .error e) :
    f.create argv = ⟨.error e, []⟩ := by
  simp [create, h]

theorem create_of_payload_error (hp : f.prepare argv = .ok (t, args, vars)) {e : Error}
    (h : f.payload t args vars = .error e) : f.create argv = ⟨.error e, []⟩ := by
  simp [create, hp, h]

theorem create_of_payload_none (hp : f.prepare argv = .ok (t, args, vars))
    (h : f.payload t args vars = .ok none) : f.create argv = ⟨f.finish args vars t, []⟩ := by
  simp [create, hp, h]

theorem create_of_payload_some (hp : f.prepare argv = .ok (t, args, vars)) {t' : Template}
    {p : Value} {bt : BodyType} (h : f.payload t args vars = .ok (some (t', p, bt))) :
    f.create argv =
      ⟨(f.encoder.encode p bt t').mapError Error.intoEncode >>= f.finish args vars, [(p, bt)]⟩ := by
  simp [create, hp, h]

/-- A call hands its encoder exactly one payload, with the template the encoder writes
into: the outcome records that payload alone, a failure of the encoder comes out as an
encoding failure, and a success goes on to the rest of the call. -/
def EncoderCalled (f : Factory) (argv : List Value) (t : Template) (p : Value) (bt : BodyType)
    (vars : Variables) : Prop :=
  (f.create argv).encoded = [(p, bt)] ∧
  (∀ e, f.encoder.encode p bt t = .error e → (f.create argv).result = .error e.intoEncode) ∧
  (∀ t', f.encoder.encode p bt t = .ok t' →
    (f.create argv).result = f.finish (expandArguments argv f.metadata.indexToExpand) vars t')

theorem encoderCalled_of_payload (hp : f.prepare argv = .ok (t, args, vars)) {t' : Template}
    {p : Value} {bt : BodyType} (h : f.payload t args vars = .ok (some (t', p, bt))) :
    f.EncoderCalled argv t' p bt vars := by
  obtain ⟨-, rfl, -⟩ := prepare_eq_ok.1 hp
  rw [EncoderCalled, create_of_payload_some hp h]
  refine ⟨rfl, fun e he => ?_, fun t'' ht => ?_⟩
  · simp [he, Except.mapError, bind, Except.bind]
  · simp [ht, Except.mapError, bind, Except.bind]

/-- The outcome records at most one payload. -/
theorem length_encoded_create_le : (f.create argv).encoded.length ≤ 1 := by
  unfold create
  split
  · simp
  · split <;> simp

/-- The outcome records a payload exactly when the call gets past binding and its
strategy hands something over. -/
theorem encoded_create_ne_nil :
    (f.create argv).encoded ≠ [] ↔
      ∃ t args vars t' p bt, f.prepare argv = .ok (t, args, vars) ∧
        f.payload t args vars = .ok (some (t', p, bt)) := by
  constructor
  · intro hne
    cases hprep : f.prepare argv with
    | error e => simp [create_of_prepare_error hprep] at hne
    | ok res =>
      obtain ⟨t, args, vars⟩ := res
      cases hpay : f.payload t args vars with
      | error e => simp [create_of_payload_error hprep hpay] at hne
      | ok found =>
        cases found with
        | none => simp [create_of_payload_none hprep hpay] at hne
        | some handed =>
          obtain ⟨t', p, bt⟩ := handed
          exact ⟨t, args, vars, t', p, bt, rfl, hpay⟩
  · rintro ⟨t, args, vars, t', p, bt, hprep, hpay⟩
    simp [create_of_payload_some hprep hpay]

end Outcome

end Factory

/-! ## The protocol -/

/-- The encoder protocol of a call. A factory built by a resolver hands its encoder at
most one payload, and hands one exactly when the method's strategy encodes a body, the
URL argument (when the method has one) is there and not null, the expanded arguments
bind, and, when one argument is the body, the expanded argument at the body position is
there and not null. Once binding succeeded, a body position past the end or holding
null fails with its own invalid-argument error, unwrapped and without the encoder;
otherwise the encoder gets the body argument with the method's body type, all expanded
arguments as a list, or the bound form parameters, in binding order, as a map once
they are marked already encoded. -/
theorem create_encoder_protocol (r : Resolver) (target : Target) (m : CallMetadata)
    (argv : List Value) :
    let f := r.resolve target m
    let args := expandArguments argv m.indexToExpand
    let i := m.bodyIndex.getD 0
    (f.create argv).encoded.length ≤ 1 ∧
    ((f.create argv).encoded ≠ [] ↔
      Strategy.select m ≠ .plain ∧ UrlArgumentPresent m argv ∧
        (∃ vars, bindVariables args m.indexToName f.expanders = .ok vars) ∧
        (Strategy.select m = .bodyEncoded → m.alwaysEncodeBody = false →
          ∃ v, args[i]? = some v ∧ v.isNull = false)) ∧
    ∀ vars, UrlArgumentPresent m argv → bindVariables args m.indexToName f.expanders = .ok vars →
      (Strategy.select m = .bodyEncoded → m.alwaysEncodeBody = false →
        (args.length ≤ i →
          f.create argv = ⟨.error (.invalidArgument (outOfRangeMessage i args.length)), []⟩) ∧
        (args[i]? = some .null → f.create argv =
          ⟨.error (.invalidArgument ("Body parameter " ++ toString i ++ " was null")), []⟩) ∧
        (∀ v, args[i]? = some v → v.isNull = false →
          ∃ t, f.EncoderCalled argv t v m.bodyType vars)) ∧
      (Strategy.select m = .bodyEncoded → m.alwaysEncodeBody = true →
        ∃ t, f.EncoderCalled argv t (.list args) .arguments vars) ∧
      (Strategy.select m = .formEncoded → ∃ t, (∀ n ∈ m.formParams, n ∈ t.alreadyEncoded) ∧
        f.EncoderCalled argv t (.map (vars.entries.filter fun e => m.formParams.contains e.1))
          .formMap vars) := by
  intro f args i
  refine ⟨Factory.length_encoded_create_le, ?_, ?_⟩
  · -- a payload is recorded exactly when binding succeeds and the strategy hands one over
    rw [Factory.encoded_create_ne_nil]
    constructor
    · rintro ⟨t, args', vars, t', p, bt, hprep, hpay⟩
      obtain ⟨ht, rfl, hbind⟩ := Factory.prepare_eq_ok.1 hprep
      obtain ⟨hplain, hbody⟩ := Factory.payload_isSome.1 ⟨t', p, bt, hpay⟩
      exact ⟨hplain, Factory.seed_isOk.1 ⟨t, ht⟩, ⟨vars, hbind⟩, hbody⟩
    · rintro ⟨hplain, hurl, ⟨vars, hbind⟩, hbody⟩
      obtain ⟨t, ht⟩ := (@Factory.seed_isOk f argv).2 hurl
      obtain ⟨t', p, bt, hpay⟩ := (@Factory.payload_isSome f t args vars).2 ⟨hplain, hbody⟩
      exact ⟨t, args, vars, t', p, bt, Factory.prepare_eq_ok.2 ⟨ht, rfl, hbind⟩, hpay⟩
  · -- past binding, each strategy decides what the encoder gets
    intro vars hurl hbind
    obtain ⟨t, ht⟩ := (@Factory.seed_isOk f argv).2 hurl
    have hprep : f.prepare argv = .ok (t, args, vars) := Factory.prepare_eq_ok.2 ⟨ht, rfl, hbind⟩
    refine ⟨fun hs ha => ⟨fun hlen => ?_, fun hnull => ?_, fun v hv hnull => ?_⟩,
      fun hs ha => ?_, fun hs => ?_⟩
    · exact Factory.create_of_payload_error hprep (Factory.payload_body_out_of_range hs ha hlen)
    · exact Factory.create_of_payload_error hprep (Factory.payload_body_null hs ha hnull)
    · exact ⟨t, Factory.encoderCalled_of_payload hprep (Factory.payload_body hs ha hv hnull)⟩
    · exact ⟨t, Factory.encoderCalled_of_payload hprep (Factory.payload_arguments hs ha)⟩
    · refine ⟨t.markEncoded m.formParams, fun n hn => Template.mem_markEncoded.2 (.inl hn), ?_⟩
      exact Factory.encoderCalled_of_payload hprep (Factory.payload_formEncoded hs)

theorem create_encoder_protocol_body :
    Strategy.select
        { template := Template.ofUri .post "/u/{id}", indexToName := [(0, ["id"])],
          bodyIndex := some 1 } = .bodyEncoded ∧
    ∃ t, (Resolver.withDefaults.resolve (Target.ofUrl "http://h")
        { template := Template.ofUri .post "/u/{id}", indexToName := [(0, ["id"])],
          bodyIndex := some 1 }).EncoderCalled [.str "7", .str "hello"] t (.str "hello") .any
        ⟨[("id", .str "7")]⟩ := by
  refine ⟨rfl, ?_⟩
  have hurl : UrlArgumentPresent
      { template := Template.ofUri .post "/u/{id}", indexToName := [(0, ["id"])],
        bodyIndex := some 1 } [.str "7", .str "hello"] := by
    intro i hi
    cases hi
  exact ((create_encoder_protocol Resolver.withDefaults (Target.ofUrl "http://h") _
    [.str "7", .str "hello"]).2.2 ⟨[("id", .str "7")]⟩ hurl rfl).1 rfl rfl |>.2.2 (.str "hello") rfl rfl

end HttpBlueprint
