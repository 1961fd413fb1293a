import Catalogue.Proofs.Score.Memo
import Catalogue.Proofs.Score.Settings

/-! # Fewer bindings

Well-formed settings stay so when bindings are left out that none of those kept reads. The graph of
those kept numbers its variables anew. Each variable still stands for the same binding, so that its
value is the same as in the graph of all bindings. -/

namespace Catalogue

namespace ScoringSettings

variable {s : ScoringSettings} {r : Registry} {kept : String → Bool} {before : List DerivedBinding}

def keep (s : ScoringSettings) (kept : String → Bool) : ScoringSettings :=
  ⟨s.leaf.filter fun b => kept b.name, s.derived.filter fun b => kept b.name⟩

def without (s : ScoringSettings) (names : List String) : ScoringSettings :=
  s.keep fun name => name ∉ names

theorem names_keep (s : ScoringSettings) (kept : String → Bool) :
    (s.keep kept).names = s.names.filter kept := by
  simp only [names, keep, List.filter_append, List.filter_map]
  rfl

theorem typings_keep {input : String} {t : ValueType} (h : (input, t) ∈ s.typings r before)
    (hkept : kept input = true) :
    (input, t) ∈ (s.keep kept).typings r (before.filter fun b => kept b.name) := by
  rcases List.mem_append.mp h with hleaf | hderived
  · obtain ⟨b, hb, heq⟩ := List.mem_map.mp hleaf
    cases heq
    exact List.mem_append_left _ (List.mem_map_of_mem (List.mem_filter.mpr ⟨hb, hkept⟩))
  · obtain ⟨b, hb, hname⟩ := List.mem_filterMap.mp hderived
    obtain ⟨f, _, heq⟩ := Option.map_eq_some_iff.mp hname
    cases heq
    refine List.mem_append_right _ (List.mem_filterMap.mpr ⟨b, ?_, hname⟩)
    exact List.mem_filter.mpr ⟨hb, hkept⟩

theorem WellFormed.upTo {rest : List DerivedBinding} (h : s.WellFormed r)
    (hsplit : s.derived = before ++ rest) : WellFormed ⟨s.leaf, before⟩ r := by
  constructor
  · have hnames : s.names =
        (⟨s.leaf, before⟩ : ScoringSettings).names ++ rest.map DerivedBinding.name := by
      simp [ScoringSettings.names, hsplit]
    have hnodup := h.names
    rw [hnames] at hnodup
    exact hnodup.of_append_left
  · intro first b after hbefore
    have hderived : before = first ++ b :: after := hbefore
    refine h.fits first b (after ++ rest) ?_
    rw [hsplit, hderived, List.append_assoc]
    rfl

theorem Fits.mono {declared others : Typings} {b : DerivedBinding} (h : b.Fits r declared)
    (hsub : ∀ input ∈ b.inputs, ∀ t, (input, t) ∈ declared → (input, t) ∈ others) :
    b.Fits r others := by
  obtain ⟨f, hf, hinputs⟩ := h
  refine ⟨f, hf, ?_⟩
  have hmem : List.Forall₂ (fun input t => input ∈ b.inputs ∧ (input, t) ∈ declared)
      b.inputs f.inputs := (List.forall₂_and_left _ _).mpr ⟨fun _ hinput => hinput, hinputs⟩
  exact hmem.imp fun input t hinput => hsub input hinput.1 t hinput.2

/-- Well-formed settings stay so without bindings that those kept do not read. -/
theorem WellFormed.keep (h : s.WellFormed r)
    (hclosed : ∀ b ∈ s.derived, kept b.name = true → ∀ input ∈ b.inputs, kept input = true) :
    (s.keep kept).WellFormed r := by
  constructor
  · rw [names_keep]
    exact h.names.filter kept
  · intro first b after hsplit
    obtain ⟨xs, rest, hderived, rfl, hrest⟩ := List.filter_eq_append_iff.mp hsplit
    obtain ⟨ys, zs, rfl, hys, hb, -⟩ := List.filter_eq_cons_iff.mp hrest
    have hmem : b ∈ s.derived := by simp [hderived]
    have hfirst : xs.filter (fun b => kept b.name) = (xs ++ ys).filter fun b => kept b.name := by
      rw [List.filter_append, List.filter_eq_nil_iff.mpr hys, List.append_nil]
    have hfits : b.Fits r (s.typings r (xs ++ ys)) := by
      refine h.fits (xs ++ ys) b zs ?_
      rw [hderived, List.append_assoc]
    rw [hfirst]
    exact Fits.mono hfits fun input hinput t ht => typings_keep ht (hclosed b hmem hb input hinput)

end ScoringSettings

/-! ## The same bindings under other numbers -/

theorem exists_of_forall₂ {α β : Type} {R : α → β → Prop} {as : List α} {bs : List β} {a : α}
    (h : List.Forall₂ R as bs) (ha : a ∈ as) : ∃ b ∈ bs, R a b := by
  induction h with
  | nil => cases ha
  | @cons a' b as bs hab _ ih =>
      cases ha with
      | head => exact ⟨b, List.mem_cons_self, hab⟩
      | tail _ ha =>
          obtain ⟨b', hb', hab'⟩ := ih ha
          exact ⟨b', List.mem_cons_of_mem b hb', hab'⟩

theorem forall₂_join {α β γ : Type} {R : α → β → Prop} {S : γ → β → Prop} {as : List α}
    {bs : List β} {cs : List γ} (h : List.Forall₂ R as bs) (h' : List.Forall₂ S cs bs) :
    List.Forall₂ (fun a c => ∃ b, R a b ∧ S c b) as cs := by
  induction h generalizing cs with
  | nil =>
      cases h'
      exact .nil
  | @cons a b as bs hab _ ih =>
      cases h' with
      | cons hcb hrest => exact .cons ⟨b, hab, hcb⟩ (ih hrest)

namespace Graph

variable {g h : Graph} {s : ScoringSettings} {r : Registry} {name : String} {i : Nat} {v : Variable}

/-- Two variables have the same name and type, and read the same field or apply the same function to
variables of the same names. -/
inductive SameVariable (g h : Graph) : Variable → Variable → Prop where
  | leaf {name type field kind} :
      SameVariable g h ⟨name, type, .leaf field kind⟩ ⟨name, type, .leaf field kind⟩
  | derived {name type inputs others f} :
      List.Forall₂ (fun i j => ∃ input, g.position? input = some i ∧ h.position? input = some j)
        inputs others →
      SameVariable g h ⟨name, type, .derived inputs f⟩ ⟨name, type, .derived others f⟩

/-- Every variable of a graph is one of another graph. -/
def Within (g h : Graph) : Prop :=
  ∀ (i : Nat) (v : Variable), g.variables[i]? = some v →
    ∃ (j : Nat) (w : Variable), h.position? v.name = some j ∧ h.variables[j]? = some w ∧
      SameVariable g h v w

theorem names_of_applies {vs : List Variable} {bindings : List DerivedBinding}
    (happlies : List.Forall₂ (g.Applies r) vs bindings) :
    vs.map Variable.name = bindings.map DerivedBinding.name := by
  induction happlies with
  | nil => rfl
  | cons happlies _ ih =>
      obtain ⟨_, _, _, _, rfl⟩ := happlies
      rw [List.map_cons, List.map_cons, ih]

theorem Lists.names_eq (hlists : g.Lists s r) : g.variables.map Variable.name = s.names := by
  obtain ⟨vs, hvs, happlies⟩ := hlists
  rw [hvs, List.map_append, List.map_map, names_of_applies happlies]
  rfl

/-- The graph of some of the bindings of settings is within the graph of all. -/
theorem Lists.within {others : ScoringSettings} (hlists : g.Lists s r) (hothers : h.Lists others r)
    (hnames : others.names.Nodup) (hleaf : ∀ b ∈ s.leaf, b ∈ others.leaf)
    (hderived : ∀ b ∈ s.derived, b ∈ others.derived) : g.Within h := by
  have hposition : ∀ w ∈ h.variables,
      ∃ j, h.position? w.name = some j ∧ h.variables[j]? = some w := by
    intro w hw
    obtain ⟨j, hj⟩ := List.mem_iff_getElem?.mp hw
    exact ⟨j, position?_of_getElem? (hothers.names_eq ▸ hnames) hj, hj⟩
  obtain ⟨vs, hvs, happlies⟩ := hlists
  obtain ⟨ws, hws, happlied⟩ := hothers
  intro i v hv
  have hmem : v ∈ g.variables := List.mem_of_getElem? hv
  rw [hvs] at hmem
  rcases List.mem_append.mp hmem with hmem | hmem
  · obtain ⟨b, hb, rfl⟩ := List.mem_map.mp hmem
    have hw : b.declared ∈ h.variables := by
      rw [hws]
      exact List.mem_append_left _ (List.mem_map_of_mem (hleaf b hb))
    obtain ⟨j, hj, hget⟩ := hposition _ hw
    exact ⟨j, _, hj, hget, .leaf⟩
  · obtain ⟨b, hb, f, positions, hf, hinputs, rfl⟩ := exists_of_forall₂ happlies hmem
    obtain ⟨w, hw, happlies'⟩ := exists_of_forall₂
      (List.Forall₂.flip (R := flip (h.Applies r)) happlied) (hderived b hb)
    obtain ⟨f', others, hf', hinputs', rfl⟩ := happlies'
    cases hf.symm.trans hf'
    have hw' : (⟨b.name, f.output, .derived others f⟩ : Variable) ∈ h.variables := by
      rw [hws]
      exact List.mem_append_right _ hw
    obtain ⟨j, hj, hget⟩ := hposition _ hw'
    exact ⟨j, _, hj, hget, .derived (forall₂_join hinputs hinputs')⟩

/-! ## The same values -/

variable {p : Place}

theorem valuesOf_of_same {value other : Nat → Option (Except ScoreError Value)}
    {inputs others : List Nat} (h : List.Forall₂ (fun i j => value i = other j) inputs others) :
    valuesOf value inputs = valuesOf other others := by
  induction h with
  | nil => rfl
  | cons hij _ ih => simp only [valuesOf, hij, ih]

/-- A name has the same value in both graphs. The induction is on its position in the smaller one,
which is below those of the variables that use it. -/
theorem Within.evaluate?_eq (hwithin : g.Within h) (hg : g.Wired) (hh : h.Wired) {j : Nat}
    (hi : g.position? name = some i) (hj : h.position? name = some j) :
    g.evaluate? p i = h.evaluate? p j := by
  induction i using Nat.strongRecOn generalizing name j with
  | ind i ih =>
      obtain ⟨v, hv, rfl⟩ := exists_of_position? hi
      obtain ⟨j', w, hj', hw, hsame⟩ := hwithin i v hv
      cases hj.symm.trans hj'
      rw [hg.evaluate?_eq hv, hh.evaluate?_eq hw]
      cases hsame with
      | leaf => rfl
      | @derived name type inputs others f hinputs =>
          have hlt := hg.input_lt hv rfl
          have hboth : List.Forall₂ (fun i j => g.evaluate? p i = h.evaluate? p j)
              inputs others := by
            refine ((List.forall₂_and_left _ _).mpr ⟨hlt, hinputs⟩).imp ?_
            rintro k l ⟨hk, input, hkey, hlkey⟩
            exact ih k hk hkey hlkey
          simp only [Variable.evaluate, valuesOf_of_same hboth]

theorem Within.exists_position (hwithin : g.Within h) (hi : g.position? name = some i) :
    ∃ j, h.position? name = some j := by
  obtain ⟨v, hv, rfl⟩ := exists_of_position? hi
  obtain ⟨j, _, hj, _⟩ := hwithin i v hv
  exact ⟨j, hj⟩

theorem Within.valueAt?_eq (hwithin : g.Within h) (hg : g.Wired) (hh : h.Wired)
    (hi : g.position? name = some i) (p : Place) : g.valueAt? p name = h.valueAt? p name := by
  obtain ⟨j, hj⟩ := hwithin.exists_position hi
  rw [valueAt?, valueAt?, hi, hj]
  exact hwithin.evaluate?_eq hg hh hi hj

theorem Within.type?_eq (hwithin : g.Within h) (hi : g.position? name = some i) :
    g.type? name = h.type? name := by
  obtain ⟨v, hv, rfl⟩ := exists_of_position? hi
  obtain ⟨j, w, hj, hw, hsame⟩ := hwithin i v hv
  rw [type?_eq_typeAt?, type?_eq_typeAt?, hi, hj]
  simp only [Option.bind_some, typeAt?, hv, hw, Option.map_some]
  cases hsame <;> rfl

theorem Within.checkEntry_eq (hwithin : g.Within h) (hi : g.position? name = some i) :
    g.checkEntry name = h.checkEntry name := by
  rw [checkEntry, checkEntry, hwithin.type?_eq hi]

theorem Within.entryAt_eq (hwithin : g.Within h) (hg : g.Wired) (hh : h.Wired)
    (hi : g.position? name = some i) (p : Place) : g.entryAt p name = h.entryAt p name := by
  rw [entryAt, entryAt, scoreAt?, scoreAt?, hwithin.checkEntry_eq hi, hwithin.valueAt?_eq hg hh hi]

end Graph

/-- A move announces something, or reads the variable of a name or its score. -/
def Move.Concerns (name : String) : Move → Prop
  | .segment _ | .doc _ => True
  | .value other | .score other => other = name

theorem Graph.Within.readings_eq {g h : Graph} {name : String} {i : Nat} (hwithin : g.Within h)
    (hg : g.Wired) (hh : h.Wired) (hi : g.position? name = some i) (p : Place) {moves : List Move}
    (hmoves : ∀ move ∈ moves, move.Concerns name) : g.readings p moves = h.readings p moves := by
  induction moves generalizing p with
  | nil => rfl
  | cons move rest ih =>
      obtain ⟨hmove, hrest⟩ := List.forall_mem_cons.mp hmoves
      cases move with
      | segment segment => exact ih (p.enter segment) hrest
      | doc number => exact ih (p.moveTo number) hrest
      | value other =>
          cases hmove
          rw [Graph.readings, Graph.readings, hwithin.valueAt?_eq hg hh hi, ih p hrest]
      | score other =>
          cases hmove
          rw [Graph.readings, Graph.readings, hwithin.entryAt_eq hg hh hi, ih p hrest]

end Catalogue
