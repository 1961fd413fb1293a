import Catalogue.Proofs.Score.Rules

/-! # The providers of a graph

A variable is bound to the providers of the variables before it. In a wired graph whose fields are
known no binding fails, and each provider answers as its variable, by induction on the order of
declaration. The variables of a search and their score functions only look providers up. -/

namespace Catalogue

variable {answers : Answering}

/-! ## Reading and applying -/

theorem Answers.lift {α : Type} (x : Except ScoreError α) :
    Answers answers (ExceptT.mk (Pure.pure x)) fun _ y => y = x :=
  fun _ hs => ⟨rfl, .refl hs⟩

theorem Answers.readProvider (f : Field) (kind : FieldKind) :
    Answers answers (readProvider f kind) fun p r => r = p.read f kind :=
  fun _ hs => ⟨rfl, .refl hs⟩

theorem argument_eq_ok_iff {name : String} {t : ValueType} {v : Value} {a : t.Carrier} :
    argument name t v = .ok a ↔ v.as? t = some a := by
  unfold argument
  cases v.as? t <;> simp

theorem argument_ne_error {name : String} {t : ValueType} {v : Value} {e : ScoreError}
    (h : v.type = t) : argument name t v ≠ .error e := by
  unfold argument
  cases hv : v.as? t with
  | some a => simp
  | none => exact absurd h (Value.as?_eq_none_iff.mp hv)

theorem Arguments.ofValues?_cons {t : ValueType} {ts : List ValueType} {v : Value}
    {vs : List Value} {a : t.Carrier} {as : Arguments ts} (hv : v.as? t = some a)
    (hvs : Arguments.ofValues? ts vs = some as) :
    Arguments.ofValues? (t :: ts) (v :: vs) = some (a, as) := by
  simp only [Arguments.ofValues?, hv, hvs]
  rfl

theorem Value.as?_eq_some_iff {v : Value} {t : ValueType} {a : t.Carrier} :
    v.as? t = some a ↔ v = ⟨t, a⟩ := by
  constructor
  · intro h
    obtain ⟨u, b⟩ := v
    unfold Value.as? at h
    split at h
    · rename_i hut
      cases hut
      exact congrArg _ (Option.some.inj h)
    · cases h
  · rintro rfl
    exact Value.as?_self t a

namespace GatheredAs

variable {answers : Nat → Except ScoreError Value → Prop} {i : Nat} {inputs : List Nat}
  {types : List ValueType} {t : ValueType} {v : Value} {a : t.Carrier} {e : ScoreError}

theorem nil : GatheredAs answers [] [] (.ok ()) :=
  ⟨.ok [], .nil, rfl⟩

theorem failed (h : answers i (.error e)) : GatheredAs answers (i :: inputs) types (.error e) :=
  ⟨.error e, .failed h, rfl⟩

theorem of_error (h : GatheredAs answers inputs types (.error e)) :
    Gathered answers inputs (.error e) := by
  obtain ⟨values, hvalues, he⟩ := h
  cases values with
  | ok vs => cases he
  | error x =>
      cases he
      exact hvalues

theorem of_ok {as : Arguments types} (h : GatheredAs answers inputs types (.ok as)) :
    ∃ values, Gathered answers inputs (.ok values) ∧
      Arguments.ofValues? types values = some as := by
  obtain ⟨values, hvalues, has⟩ := h
  cases values with
  | ok vs => exact ⟨vs, hvalues, Except.ok.inj has⟩
  | error x => cases has

/-- One more value in front of those gathered, if it is of the type that is taken there. -/
theorem cons {r : Except ScoreError (Arguments types)} (hv : answers i (.ok v))
    (ha : v.as? t = some a) (h : GatheredAs answers inputs types r) :
    GatheredAs answers (i :: inputs) (t :: types) (r.map fun as => (a, as)) := by
  cases r with
  | error e => exact ⟨.error e, .cons hv h.of_error, rfl⟩
  | ok as =>
      obtain ⟨values, hvalues, has⟩ := h.of_ok
      exact ⟨.ok (v :: values), .cons hv hvalues,
        congrArg Except.ok (Arguments.ofValues?_cons ha has)⟩

end GatheredAs

namespace Graph

variable {g : Graph}

theorem validateFields_eq_ok_iff :
    g.validateFields = .ok () ↔ ∀ v ∈ g.variables, Variable.checkField v = .ok () := by
  unfold validateFields
  induction g.variables with
  | nil => simp [List.forM, Pure.pure, Except.pure]
  | cons v vs ih =>
      change (Variable.checkField v >>= fun _ => vs.forM Variable.checkField) = .ok () ↔ _
      rw [bind_eq_ok_iff, List.forall_mem_cons]
      constructor
      · rintro ⟨_, hv, hvs⟩
        exact ⟨hv, ih.mp hvs⟩
      · rintro ⟨hv, hvs⟩
        exact ⟨(), hv, ih.mpr hvs⟩

/-- A variable has a provider only if its field is known. -/
theorem checkField_of_provider {v : Variable} {earlier : List (Provider ScoreState)}
    {p : Provider ScoreState} (h : v.provider earlier = .ok p) :
    Variable.checkField v = .ok () := by
  unfold Variable.checkField
  cases hs : v.source with
  | derived inputs f => rfl
  | leaf field kind =>
      cases hf : Field.ofName? field with
      | some f => simp [hf]
      | none =>
          simp only [Catalogue.Variable.provider, hs, hf] at h
          cases h

theorem validateFields_of_ofGraph {vs : Variables} (h : Variables.ofGraph g = .ok vs) :
    g.validateFields = .ok () := by
  obtain ⟨ps, hps, _⟩ := bind_eq_ok_iff.mp h
  have key : ∀ rest earlier, providersAfter earlier rest = .ok ps →
      ∀ v ∈ rest, Variable.checkField v = .ok () := by
    intro rest
    induction rest with
    | nil => simp
    | cons v rest ih =>
        intro earlier hrest
        obtain ⟨p, hp, hrest⟩ := bind_eq_ok_iff.mp hrest
        rw [List.forall_mem_cons]
        exact ⟨checkField_of_provider hp, ih _ hrest⟩
  exact validateFields_eq_ok_iff.mpr (key _ _ hps)

theorem checkEntry_eq_ok_iff {name : String} :
    g.checkEntry name = .ok () ↔ g.type? name = some .float := by
  unfold checkEntry
  split
  · rename_i h
    simp [h]
  · rename_i h
    simp [h]
  · rename_i t hne h
    rw [h]
    constructor
    · intro hc
      cases hc
    · intro ht
      exact absurd (Option.some.inj ht) hne

end Graph

namespace EvaluationRules

variable {g : Graph}

/-- Providers of the inputs of a function evaluate to arguments made of the values gathered. -/
theorem arguments (rules : EvaluationRules g answers) (name : String) {types : List ValueType}
    {inputs : List Nat} {ps : List (Provider ScoreState)}
    (hps : List.Forall₂ (Provides answers) ps inputs)
    (htypes : List.Forall₂ (fun i t => g.typeAt? i = some t) inputs types) :
    ∃ e, Arguments.evaluate? name types ps = some e ∧
      Answers answers e fun place r => GatheredAs (answers place) inputs types r := by
  induction htypes generalizing ps with
  | nil =>
      cases hps
      exact ⟨_, rfl, Answers.pure () fun _ => .nil⟩
  | @cons i t inputs types ht _ ih =>
      cases hps with
      | @cons p _ ps _ hp hps =>
          obtain ⟨e, he, hanswers⟩ := ih hps
          refine ⟨Arguments.cons name t p e, by simp only [Arguments.evaluate?, he, Option.map], ?_⟩
          have htype : ∀ {place v}, answers place i (.ok v) → v.type = t := by
            intro place v hv
            exact Option.some.inj ((rules.typed hv).symm.trans ht)
          refine hp.bind (fun place x hx => .failed hx) fun v => ?_
          refine (Answers.lift (argument name t v)).bind
            (fun place x hx hv => absurd hx.symm (argument_ne_error (htype hv))) fun a => ?_
          refine hanswers.bind (fun place x hx ha hv => ?_) fun as => Answers.pure _ ?_
          · exact .cons hv (argument_eq_ok_iff.mp ha.symm) hx
          · exact fun place has ha hv => .cons hv (argument_eq_ok_iff.mp ha.symm) has

/-- A function bound to the providers of its inputs answers as its variable. -/
theorem bind? (rules : EvaluationRules g answers) (name : String) {i : Nat} {v : Variable}
    {inputs : List Nat} {f : Operation} {ps : List (Provider ScoreState)}
    (hv : g.variables[i]? = some v) (hs : v.source = .derived inputs f)
    (hps : List.Forall₂ (Provides answers) ps inputs)
    (htypes : List.Forall₂ (fun j t => g.typeAt? j = some t) inputs f.inputs) :
    ∃ p, f.bind? name ps = some p ∧ Provides answers p i := by
  obtain ⟨e, he, hanswers⟩ := rules.arguments name hps htypes
  refine ⟨f.onArguments e, by simp only [Operation.bind?, he, Option.map], ?_⟩
  refine hanswers.bind (fun place x hx => ?_) fun as => Answers.pure _ fun place has => ?_
  · exact rules.failed hv hs hx.of_error
  · obtain ⟨values, hvalues, hof⟩ := has.of_ok
    exact rules.applied hv hs hvalues hof

/-! ## One variable after the other -/

theorem mapM_getElem? {ps : List (Provider ScoreState)} {inputs : List Nat}
    (h : ∀ j ∈ inputs, j < ps.length) :
    ∃ qs, inputs.mapM (ps[·]?) = some qs ∧ List.Forall₂ (fun q j => ps[j]? = some q) qs inputs := by
  induction inputs with
  | nil => exact ⟨[], rfl, .nil⟩
  | cons j rest ih =>
      obtain ⟨qs, hqs, hall⟩ := ih fun k hk => h k (by simp [hk])
      have hlt : j < ps.length := h j (by simp)
      have hj : ps[j]? = some ps[j] := List.getElem?_eq_getElem hlt
      refine ⟨ps[j] :: qs, ?_, .cons hj hall⟩
      rw [List.mapM_cons, hj, hqs]
      rfl

/-- After the providers of the variables before it, a variable whose field is known has a provider,
and that answers as the variable. -/
theorem provider (rules : EvaluationRules g answers) (hg : g.Wired) {v : Variable}
    {earlier : List (Provider ScoreState)} (hv : g.variables[earlier.length]? = some v)
    (hfield : Graph.Variable.checkField v = .ok ())
    (hearlier : ∀ j p, earlier[j]? = some p → Provides answers p j) :
    ∃ p, v.provider earlier = .ok p ∧
      Provides answers p earlier.length := by
  cases hs : v.source with
  | leaf field kind =>
      cases hf : Field.ofName? field with
      | none => simp [Graph.Variable.checkField, hs, hf] at hfield
      | some f =>
          refine ⟨memoized earlier.length (noting (.loaded earlier.length) (readProvider f kind)),
            by simp only [Variable.provider, hs, hf], Answers.memoized (Answers.noting ?_)⟩
          exact (Answers.readProvider f kind).mono fun place r hr => hr ▸ rules.leaf hv hs hf
  | derived inputs f =>
      obtain ⟨qs, hqs, hall⟩ := mapM_getElem? (hg.input_lt hv hs)
      have hps : List.Forall₂ (Provides answers) qs inputs :=
        hall.imp fun p j hp => hearlier j p hp
      have htypes := ((hg _ v hv).derived hs).2.imp fun _ _ h => h.2
      obtain ⟨p, hp, hanswers⟩ := rules.bind? v.name hv hs hps htypes
      have hbound : (inputs.mapM (earlier[·]?)).bind (f.bind? v.name) = some p := by
        rw [hqs]
        exact hp
      exact ⟨memoized earlier.length (noting (.applied earlier.length) p),
        by simp only [Variable.provider, hs, hbound], Answers.memoized (Answers.noting hanswers)⟩

/-- The providers of the variables still to come all exist, and each answers as its variable. -/
theorem providersAfter (rules : EvaluationRules g answers) (hg : g.Wired)
    (hfields : ∀ v ∈ g.variables, Graph.Variable.checkField v = .ok ()) {done rest : List Variable}
    {earlier : List (Provider ScoreState)} (hsplit : g.variables = done ++ rest)
    (hlen : earlier.length = done.length)
    (hearlier : ∀ j p, earlier[j]? = some p → Provides answers p j) :
    ∃ ps, providersAfter earlier rest = .ok ps ∧ ps.length = g.variables.length ∧
      ∀ j p, ps[j]? = some p → Provides answers p j := by
  induction rest generalizing done earlier with
  | nil => exact ⟨earlier, rfl, by rw [hlen, hsplit, List.append_nil], hearlier⟩
  | cons v rest ih =>
      have hv : g.variables[earlier.length]? = some v := by
        rw [hsplit, hlen, List.getElem?_append_right (Nat.le_refl _), Nat.sub_self]
        rfl
      have hmem : v ∈ g.variables := by
        rw [hsplit]
        simp
      obtain ⟨p, hp, hanswers⟩ := rules.provider hg hv (hfields v hmem) hearlier
      have hsplit' : g.variables = (done ++ [v]) ++ rest := by
        rw [hsplit, List.append_assoc]
        rfl
      have hlen' : (earlier ++ [p]).length = (done ++ [v]).length := by simp [hlen]
      have hearlier' : ∀ j q, (earlier ++ [p])[j]? = some q →
          Provides answers q j := by
        intro j q hq
        rcases Graph.getElem?_concat_eq_some hq with hq | ⟨rfl, rfl⟩
        · exact hearlier j q hq
        · exact hanswers
      obtain ⟨ps, hps, hall⟩ := ih hsplit' hlen' hearlier'
      refine ⟨ps, ?_, hall⟩
      rw [Catalogue.providersAfter, hp]
      exact hps

end EvaluationRules

/-! ## The variables of a search -/

/-- The variables of a search are those of a graph, and their providers answer as them. -/
structure Variables.Faithful (vs : Variables) (g : Graph) (answers : Answering) : Prop where
  graph : vs.graph = g
  count : vs.providers.length = g.variables.length
  answer : ∀ i p, vs.providers[i]? = some p → Provides answers p i

/-- The variables of a wired graph whose fields are known exist, and are faithful to it. -/
theorem EvaluationRules.exists_ofGraph {g : Graph} (rules : EvaluationRules g answers)
    (hg : g.Wired) (hfields : g.validateFields = .ok ()) :
    ∃ vs, Variables.ofGraph g = .ok vs ∧ vs.Faithful g answers := by
  have hsplit : g.variables = [] ++ g.variables := rfl
  have hnone : ∀ j p, ([] : List (Provider ScoreState))[j]? = some p →
      Provides answers p j := fun j p hp => by cases hp
  obtain ⟨ps, hps, hlen, hall⟩ := rules.providersAfter hg
    (Graph.validateFields_eq_ok_iff.mp hfields) hsplit rfl hnone
  refine ⟨⟨g, ps⟩, ?_, rfl, hlen, hall⟩
  rw [Variables.ofGraph, hps]
  rfl

theorem EvaluationRules.faithful {g : Graph} (rules : EvaluationRules g answers) (hg : g.Wired)
    {vs : Variables} (h : Variables.ofGraph g = .ok vs) : vs.Faithful g answers := by
  obtain ⟨vs', hvs, hfaithful⟩ := rules.exists_ofGraph hg (Graph.validateFields_of_ofGraph h)
  exact Except.ok.inj (hvs.symm.trans h) ▸ hfaithful

namespace Variables.Faithful

variable {g : Graph} {vs : Variables}

theorem value?_eq_none_iff (h : vs.Faithful g answers) {name : String} :
    vs.value? name = none ↔ g.position? name = none := by
  unfold value?
  rw [h.graph]
  cases hi : g.position? name with
  | none => simp
  | some i =>
      have hlt : i < vs.providers.length := h.count ▸ Graph.position?_lt hi
      simp [List.getElem?_eq_getElem hlt]

theorem value?_answers (h : vs.Faithful g answers) {name : String} {p : Provider ScoreState}
    (hp : vs.value? name = some p) :
    ∃ i, g.position? name = some i ∧ Provides answers p i := by
  obtain ⟨i, hi, hp⟩ := Option.bind_eq_some_iff.mp hp
  exact ⟨i, h.graph ▸ hi, h.answer i p hp⟩

theorem scoreFunction_eq_error (h : vs.Faithful g answers) {name : String} {e : GraphError}
    (he : g.checkEntry name = .error e) : vs.scoreFunction name = .error e := by
  rw [scoreFunction, h.graph, he]
  rfl

/-- An entry point has a score function, whose results are those of its variable. -/
theorem scoreFunction_answers (h : vs.Faithful g answers) (rules : EvaluationRules g answers)
    {name : String} (he : g.checkEntry name = .ok ()) :
    ∃ i score, g.position? name = some i ∧ vs.scoreFunction name = .ok score ∧
      Answers answers score fun place r => answers place i (r.map (Value.mk .float)) := by
  have htype := Graph.checkEntry_eq_ok_iff.mp he
  rw [Graph.type?_eq_typeAt?] at htype
  obtain ⟨i, hi, htype⟩ := Option.bind_eq_some_iff.mp htype
  cases hp : vs.value? name with
  | none => simp [h.value?_eq_none_iff.mp hp] at hi
  | some p =>
      obtain ⟨j, hj, hanswers⟩ := h.value?_answers hp
      have hij : j = i := Option.some.inj (hj.symm.trans hi)
      subst hij
      refine ⟨j, _, hj, by rw [scoreFunction, h.graph, he, hp]; rfl, ?_⟩
      refine hanswers.bind (fun place x hx => hx) fun v => ?_
      cases hv : v.as? .float with
      | some x =>
          cases Value.as?_eq_some_iff.mp hv
          exact Answers.pure x fun place hplace => hplace
      | none =>
          intro s hs
          refine ⟨fun hplace => ?_, .refl hs⟩
          have hfloat := Option.some.inj ((rules.typed hplace).symm.trans htype)
          exact absurd hfloat (Value.as?_eq_none_iff.mp hv)

end Variables.Faithful

end Catalogue
