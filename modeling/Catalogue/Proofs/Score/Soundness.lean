import Catalogue.Proofs.Score.Memo

/-! # Types of scoring variables are kept

A variable of a declared type gives values of that type and no others, and fails only if a field
cannot be read. This holds wherever the search stands, and also if the fields and the variables
hear of different things: a kept value may be out of date, but never of another type. -/

namespace Catalogue

/-- The failures to read a field of the current document. -/
def ScoreError.IsRead : ScoreError → Prop
  | .noContext | .missingField .. | .store _ => True
  | .unknownField _ | .valueType .. => False

/-- The results of a type: values of it, and failures to read a field. -/
def ValueType.Admits (t : ValueType) : Except ScoreError Value → Prop
  | .ok v => v.type = t
  | .error e => e.IsRead

/-! ## Being of the declared type obeys the rules -/

theorem Place.current_isRead {p : Place} {e : ScoreError} (h : p.current = .error e) :
    e.IsRead := by
  unfold current at h
  split at h
  · split at h
    · cases h
    · cases h
      trivial
  · cases h
    trivial

theorem Place.first_isRead {p : Place} {f : Field} {e : ScoreError} (h : p.first f = .error e) :
    e.IsRead := by
  rcases bind_eq_error_iff.mp h with h | ⟨⟨doc, d⟩, _, h⟩
  · exact Place.current_isRead h
  · cases hd : (d.values f).head? with
    | some s =>
        simp only [hd] at h
        cases h
    | none =>
        simp only [hd] at h
        cases h
        trivial

theorem Place.every_isRead {p : Place} {f : Field} {e : ScoreError} (h : p.every f = .error e) :
    e.IsRead := by
  rcases bind_eq_error_iff.mp h with h | ⟨_, _, h⟩
  · exact Place.current_isRead h
  · cases h

/-- A field that is read gives a value of its kind, or fails to be read. -/
theorem Place.read_admits (p : Place) (f : Field) (kind : FieldKind) :
    kind.type.Admits (p.read f kind) := by
  cases h : p.read f kind with
  | ok v => exact Place.read_type h
  | error e =>
      have hread : p.first f = .error e ∨ p.every f = .error e := by
        cases kind <;> rcases bind_eq_error_iff.mp h with h | ⟨_, _, h⟩
        all_goals first | exact .inl h | exact .inr h | cases h
      exact hread.elim Place.first_isRead Place.every_isRead

namespace Graph

variable {g : Graph}

/-- The results that are of the declared type of a position, wherever the search stands. -/
def typed (g : Graph) : Answering := fun _ i r => ∃ t, g.typeAt? i = some t ∧ t.Admits r

theorem gathered_typed_isRead {p : Place} {inputs : List Nat} {e : ScoreError}
    (h : Gathered (g.typed p) inputs (.error e)) : e.IsRead := by
  generalize hr : (Except.error e : Except ScoreError (List Value)) = r at h
  induction h with
  | nil => cases hr
  | failed hi =>
      cases hr
      obtain ⟨_, _, hread⟩ := hi
      exact hread
  | @cons _ _ _ r _ _ ih =>
      cases r with
      | ok vs => cases hr
      | error x =>
          cases hr
          exact ih rfl

theorem Wired.typed_rules (hg : g.Wired) : EvaluationRules g g.typed where
  typed {p i v} h := by
    obtain ⟨t, ht, hv⟩ := h
    rw [ht, ← hv]
  leaf {p i v field kind f} hv hs hf := by
    refine ⟨kind.type, ?_, p.read_admits f kind⟩
    rw [typeAt?, hv, Option.map_some, (hg i v hv).leaf hs]
  failed {p i v inputs f e} hv hs hgathered := by
    exact ⟨v.type, by rw [typeAt?, hv, Option.map_some], gathered_typed_isRead hgathered⟩
  applied {p i v inputs f values arguments} hv hs hgathered harguments := by
    refine ⟨f.output, ?_, rfl⟩
    rw [typeAt?, hv, Option.map_some, ((hg i v hv).derived hs).1]

end Graph

/-! ## Every state of a search -/

/-- The states of the variables of a search: announcements to the fields, announcements to the
variables and reads lead from one to another, in any order. -/
inductive Variables.Reaches (vs : Variables) : ScoreState → Prop where
  | start : vs.Reaches vs.start
  | enter {s} (segment : Segment) : vs.Reaches s → vs.Reaches (s.fieldsEnter segment)
  | moveTo {s} (number : Nat) : vs.Reaches s → vs.Reaches (s.fieldsMoveTo number)
  | invalidate {s} : vs.Reaches s → vs.Reaches s.invalidate
  | value {s} (name : String) : vs.Reaches s → vs.Reaches (vs.readValue name s).2
  | score {s} (name : String) : vs.Reaches s → vs.Reaches (vs.readScore name s).2

/-- The variables of a search are sound for a graph: those of the graph have values of the declared
types or fail to read a field, and those of type `float` are its entry points. -/
structure Variables.Sound (vs : Variables) (g : Graph) : Prop where
  undeclared : ∀ name, vs.value? name = none ↔ g.type? name = none
  value : ∀ s, vs.Reaches s → ∀ name p, vs.value? name = some p →
    ∃ t, g.type? name = some t ∧ t.Admits ((ExceptT.run p).run s).1
  entry : ∀ name, (vs.scoreFunction name).map (fun _ => ()) = g.checkEntry name
  score : ∀ s, vs.Reaches s → ∀ name f e, vs.scoreFunction name = .ok f →
    ((ExceptT.run f).run s).1 = .error e → e.IsRead

section

variable {g : Graph} {vs : Variables}

theorem Graph.typed_moved {s s' : ScoreState} (h : s.Keeps g.typed) (hcells : s'.cells = s.cells)
    (hgeneration : s'.generation = s.generation) : s'.Keeps g.typed := by
  refine ⟨fun {i seen v} hc => ?_, fun {i v} hk => ?_⟩
  · rw [hgeneration]
    exact h.past (hcells ▸ hc)
  · have hcell := ScoreState.kept?_eq_some_iff.mp hk
    rw [hcells, hgeneration] at hcell
    exact h.kept (ScoreState.kept?_eq_some_iff.mpr hcell)

theorem Variables.Reaches.keeps {s : ScoreState} (h : vs.Reaches s) (hg : g.Wired)
    (hvs : vs.Faithful g g.typed) : s.Keeps g.typed := by
  induction h with
  | start => exact .start _
  | enter segment _ ih => exact Graph.typed_moved ih rfl rfl
  | moveTo number _ ih => exact Graph.typed_moved ih rfl rfl
  | @invalidate s _ ih => exact ih.announce s.place
  | value name _ ih => exact (hvs.readValue_steady ih name).keeps
  | score name _ ih => exact (hvs.readScore_steady hg.typed_rules ih name).keeps

theorem Variables.Faithful.sound (h : vs.Faithful g g.typed) (hg : g.Wired) : vs.Sound g where
  undeclared name := by
    rw [h.value?_eq_none_iff, ← Option.not_isSome_iff_eq_none, ← Option.not_isSome_iff_eq_none]
    exact not_congr (g.type?_isSome_iff name).symm
  value s hs name p hp := by
    obtain ⟨i, hi, hanswers⟩ := h.value?_answers hp
    obtain ⟨t, ht, hadmits⟩ := (hanswers s (hs.keeps hg h)).1
    refine ⟨t, ?_, hadmits⟩
    rw [Graph.type?_eq_typeAt?, hi]
    exact ht
  entry name := by
    cases he : g.checkEntry name with
    | error e =>
        rw [h.scoreFunction_eq_error he]
        rfl
    | ok _ =>
        obtain ⟨_, score, _, hscore, _⟩ := h.scoreFunction_answers hg.typed_rules he
        rw [hscore]
        rfl
  score s hs name f e hf he := by
    have hentry : g.checkEntry name = .ok () := by
      cases hc : g.checkEntry name with
      | ok _ => rfl
      | error x =>
          rw [h.scoreFunction_eq_error hc] at hf
          cases hf
    obtain ⟨i, score, _, hscore, hanswers⟩ := h.scoreFunction_answers hg.typed_rules hentry
    obtain ⟨t, _, hadmits⟩ := (hanswers s (hs.keeps hg h)).1
    cases hf.symm.trans hscore
    rw [he] at hadmits
    exact hadmits

end

end Catalogue
