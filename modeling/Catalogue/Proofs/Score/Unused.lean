import Catalogue.Proofs.Score.Pruned
import Catalogue.Proofs.Score.Reachable
import Mathlib.Data.List.Forall2
import Mathlib.Data.List.Nodup

/-! # Unused bindings

The bindings that settings are warned of are those that the score can do without: all of them can be
left out at once, and no other one alone. Only a search of all bindings may still fail where one of
the rest does not, since it looks up the fields of unused leaves too. -/

namespace Catalogue

open Relation

def Warning.unused? : Warning → Option String
  | .unusedBinding name => some name
  | .inMemoryIndex | .unknownScore _ => none

def Settings.unused (s : Settings) : List String := s.warnings.filterMap Warning.unused?

/-- What the reads among some moves of a search give, if its variables exist. -/
def Graph.readingsOf (g : Graph) (moves : List Move) : Except GraphError (List Reading) := do
  let vs ← Variables.ofGraph g
  return vs.readings vs.start moves

/-! ## What is warned of -/

theorem Settings.unused_eq {s : Settings} (hentry : s.search.score ∈ s.scoring.names) :
    s.unused =
      s.scoring.names.filter fun name => name ∉ s.scoring.reachable s.search.score := by
  have hplace : (if s.index.path.isNone then [Warning.inMemoryIndex] else []).filterMap
      Warning.unused? = [] := by
    split <;> rfl
  have hsome : ∀ names : List String,
      (names.map Warning.unusedBinding).filterMap Warning.unused? = names := by
    intro names
    rw [List.filterMap_map]
    exact List.filterMap_some
  rw [unused, warnings, List.filterMap_append, hplace, List.nil_append, scoringWarnings,
    if_pos hentry, hsome]

theorem Settings.mem_unused_iff {s : Settings} {name : String}
    (hentry : s.search.score ∈ s.scoring.names) :
    name ∈ s.unused ↔
      name ∈ s.scoring.names ∧ ¬ReflTransGen s.scoring.Reads s.search.score name := by
  rw [unused_eq hentry, List.mem_filter, decide_eq_true_eq, ScoringSettings.mem_reachable_iff]

namespace ScoringSettings

variable {s : ScoringSettings} {r : Registry} {b : DerivedBinding} {name input : String}

/-- When names are distinct, what a name reads is what its one binding reads. -/
theorem reads_iff (hnames : s.names.Nodup) :
    s.Reads name input ↔ ∃ b ∈ s.derived, b.name = name ∧ input ∈ b.inputs := by
  unfold Reads inputs
  constructor
  · intro hread
    cases hfind : s.derived.reverse.find? fun b => b.name = name with
    | none => simp [hfind] at hread
    | some b =>
        rw [hfind] at hread
        have hname := List.find?_some hfind
        exact ⟨b, List.mem_reverse.mp (List.mem_of_find?_eq_some hfind), of_decide_eq_true hname,
          hread⟩
  · rintro ⟨b, hb, rfl, hinput⟩
    have hderived : (s.derived.map DerivedBinding.name).Nodup := (List.nodup_append.mp hnames).2.1
    cases hfind : s.derived.reverse.find? fun other => other.name = b.name with
    | none =>
        have hother := List.find?_eq_none.mp hfind b (List.mem_reverse.mpr hb)
        exact absurd (decide_eq_true rfl) hother
    | some other =>
        have hmem := List.mem_reverse.mp (List.mem_of_find?_eq_some hfind)
        have hname := List.find?_some hfind
        rw [List.inj_on_of_nodup_map hderived hmem hb (of_decide_eq_true hname)]
        exact hinput

theorem mem_names_without {names : List String} :
    name ∈ (s.without names).names ↔ name ∈ s.names ∧ name ∉ names := by
  rw [without, names_keep, List.mem_filter, decide_eq_true_eq]

/-- Settings that give a graph are well formed, and it lists their bindings. -/
theorem wellFormed_of_ofSettings {g : Graph} (hg : Graph.ofSettings s r = .ok g) :
    s.WellFormed r ∧ g.Lists s r := by
  rcases s.wellFormed_or_firstOffence r with h | ⟨e, h⟩
  · obtain ⟨g', hg', hlists⟩ := h.exists_graph
    cases hg.symm.trans hg'
    exact ⟨h, hlists⟩
  · cases hg.symm.trans h.ofSettings_eq

/-! ## Without one binding -/

/-- Of inputs that fit, one that is missing is the first offence. -/
theorem InputOffence.of_missing {names inputs : List String} {declared others : Typings}
    {reader : String} {types : List ValueType}
    (hfits : List.Forall₂ (fun input t => (input, t) ∈ declared) inputs types)
    (hothers : ∀ input t, input ≠ name → (input, t) ∈ declared → (input, t) ∈ others)
    (hmissing : name ∉ others.map Prod.fst) (hnames : name ∉ names) (hread : name ∈ inputs) :
    InputOffence names others reader inputs types (.unresolvedInput reader name) := by
  induction hfits with
  | nil => cases hread
  | @cons input t inputs types hinput _ ih =>
      by_cases heq : input = name
      · rw [heq]
        exact .unresolvedInput hmissing hnames
      · have hrest : name ∈ inputs := List.mem_of_ne_of_mem (Ne.symm heq) hread
        exact .later (hothers input t heq hinput) (ih hrest)

theorem not_mem_names_without : name ∉ (s.without [name]).names := by
  rw [mem_names_without]
  exact fun hmem => hmem.2 (List.mem_singleton_self name)

/-- Of bindings that read a name there is a first. -/
theorem exists_first_reader (hb : b ∈ s.derived) (hread : name ∈ b.inputs) :
    ∃ before first after, s.derived = before ++ first :: after ∧ name ∈ first.inputs ∧
      ∀ b ∈ before, name ∉ b.inputs := by
  obtain ⟨first, hfirst⟩ : ∃ first, s.derived.find? (fun b => name ∈ b.inputs) = some first := by
    rw [← Option.isSome_iff_exists, List.find?_isSome]
    exact ⟨b, hb, decide_eq_true hread⟩
  obtain ⟨hreads, before, after, hsplit, hbefore⟩ := List.find?_eq_some_iff_append.mp hfirst
  exact ⟨before, first, after, hsplit, of_decide_eq_true hreads, by simpa using hbefore⟩

/-- Without a binding that another one reads, the first one to read it does not resolve. -/
theorem WellFormed.without_read (h : s.WellFormed r) (hb : b ∈ s.derived)
    (hread : name ∈ b.inputs) :
    ∃ reader, Graph.ofSettings (s.without [name]) r = .error (.unresolvedInput reader name) := by
  obtain ⟨before, first, after, hsplit, hreads, hbefore⟩ := exists_first_reader hb hread
  have hupTo := h.upTo hsplit
  obtain ⟨f, hf, hinputs⟩ := h.fits before first after hsplit
  -- The first reader has a name of its own, so that it is not left out.
  have hfresh : first.name ∉ (⟨s.leaf, before⟩ : ScoringSettings).names := by
    have hnodup := h.names
    rw [ScoringSettings.names, hsplit, List.map_append, List.map_cons, ← List.append_assoc] at hnodup
    exact Graph.not_mem_of_nodup_append hnodup
  have hdeclared : name ∈ (⟨s.leaf, before⟩ : ScoringSettings).names := by
    obtain ⟨t, _, ht⟩ := exists_of_forall₂ hinputs hreads
    rw [← hupTo.typings_names]
    exact List.mem_map_of_mem (f := Prod.fst) ht
  have hne : first.name ≠ name := fun heq => hfresh (heq ▸ hdeclared)
  have hkept : (without ⟨s.leaf, before⟩ [name]).WellFormed r := by
    refine hupTo.keep fun b hb _ input hinput => ?_
    rw [decide_eq_true_eq, List.mem_singleton]
    rintro rfl
    exact hbefore b hb hinput
  have hnames : ((s.without [name]).typings r (without ⟨s.leaf, before⟩ [name]).derived).map
      Prod.fst = (without ⟨s.leaf, before⟩ [name]).names := hkept.typings_names
  have hoffence : Offence r (s.without [name]).names
      ((s.without [name]).typings r (without ⟨s.leaf, before⟩ [name]).derived) first
      (.unresolvedInput first.name name) := by
    refine .input hf ?_ hinputs.length_eq (.of_missing hinputs ?_ ?_ not_mem_names_without hreads)
    · rw [hnames, mem_names_without]
      exact fun hmem => hfresh hmem.1
    · intro input t hinput ht
      exact typings_keep ht (by simpa using hinput)
    · rw [hnames]
      exact not_mem_names_without
  have hderived : (s.without [name]).derived = (without ⟨s.leaf, before⟩ [name]).derived ++
      first :: after.filter fun b => decide (b.name ∉ [name]) := by
    have hfirst : decide (first.name ∉ [name]) = true := by simpa using hne
    simp only [without, ScoringSettings.keep, hsplit, List.filter_append, List.filter_cons, hfirst,
      if_true]
  exact ⟨first.name, FirstOffence.ofSettings_eq (.derived hderived hkept hoffence)⟩

end ScoringSettings

/-! ## Looking up fields -/

section

variable {g : Graph} {s : ScoringSettings} {r : Registry} {e : GraphError}

def checkFields (leaf : List LeafBinding) : Except GraphError Unit :=
  leaf.forM fun b => Graph.Variable.checkField b.declared

theorem checkFields_cons (b : LeafBinding) (rest : List LeafBinding) :
    checkFields (b :: rest) =
      Graph.Variable.checkField b.declared >>= fun _ => checkFields rest :=
  rfl

/-- The fields of a graph of settings are those of the leaves. -/
theorem Graph.Lists.validateFields_eq (hlists : g.Lists s r) :
    g.validateFields = checkFields s.leaf := by
  obtain ⟨vs, hvs, happlies⟩ := hlists
  have hderived : Graph.validateFields ⟨vs⟩ = .ok () := by
    refine Graph.validateFields_eq_ok_iff.mpr fun v hv => ?_
    obtain ⟨b, _, f, positions, _, _, rfl⟩ := exists_of_forall₂ happlies hv
    rfl
  rw [Graph.validateFields, hvs]
  generalize s.leaf = leaf
  induction leaf with
  | nil => exact hderived
  | cons b rest ih =>
      rw [checkFields_cons, ← ih]
      rfl

theorem LeafBinding.provider_declared (b : LeafBinding) (earlier : List (Provider ScoreState)) :
    (b.declared.provider earlier).map (fun _ => ()) = Graph.Variable.checkField b.declared := by
  cases hf : Field.ofName? b.field with
  | none =>
      simp only [Variable.provider, Graph.Variable.checkField, LeafBinding.declared, hf]
      rfl
  | some f =>
      simp only [Variable.provider, Graph.Variable.checkField, LeafBinding.declared, hf]
      rfl

/-- Variables fail to be instantiated as their fields fail to be looked up. -/
theorem Graph.Lists.ofGraph_of_error (hlists : g.Lists s r) (he : g.validateFields = .error e) :
    Variables.ofGraph g = .error e := by
  rw [hlists.validateFields_eq] at he
  obtain ⟨vs, hvs, _⟩ := hlists
  have key : ∀ (leaf : List LeafBinding) (earlier : List (Provider ScoreState)),
      checkFields leaf = .error e →
        providersAfter earlier (leaf.map LeafBinding.declared ++ vs) = .error e := by
    intro leaf
    induction leaf with
    | nil => exact fun _ hnil => nomatch hnil
    | cons b rest ih =>
        intro earlier hcons
        rw [checkFields_cons, ← b.provider_declared earlier] at hcons
        rw [List.map_cons, List.cons_append, providersAfter]
        cases hp : b.declared.provider earlier with
        | error e' =>
            rw [hp] at hcons
            cases hcons
            rfl
        | ok p =>
            rw [hp] at hcons
            exact ih (earlier ++ [p]) hcons
  rw [Variables.ofGraph, hvs, key s.leaf [] he]
  rfl

/-- Leaves of known fields make no difference to looking up fields. -/
theorem checkFields_filter (kept : String → Bool) {leaf : List LeafBinding}
    (hknown : ∀ b ∈ leaf, kept b.name = false → (Field.ofName? b.field).isSome) :
    checkFields (leaf.filter fun b => kept b.name) = checkFields leaf := by
  induction leaf with
  | nil => rfl
  | cons b rest ih =>
      obtain ⟨hb, hrest⟩ := List.forall_mem_cons.mp hknown
      rw [checkFields_cons, ← ih hrest, List.filter_cons]
      by_cases hkept : kept b.name = true
      · rw [if_pos hkept, checkFields_cons]
      · have hcheck : Graph.Variable.checkField b.declared = .ok () :=
          if_pos (hb (Bool.eq_false_iff.mpr hkept))
        rw [if_neg hkept, hcheck, ok_bind]

end

/-! ## Without all unused bindings -/

/-- Without its unused bindings settings do as well, and without any other binding they do not. -/
structure Settings.UnusedExact (s : Settings) (r : Registry) (g : Graph) : Prop where
  spared : ∃ g', Graph.ofSettings (s.scoring.without s.unused) r = .ok g' ∧
    g'.checkEntry s.search.score = g.checkEntry s.search.score ∧
    (∀ p, g'.valueAt? p s.search.score = g.valueAt? p s.search.score) ∧
    ((∀ b ∈ s.scoring.leaf, b.name ∈ s.unused → (Field.ofName? b.field).isSome) →
      ∀ moves : List Move, (∀ move ∈ moves, move.Concerns s.search.score) →
        g'.readingsOf moves = g.readingsOf moves)
  needed : ∀ name ∈ s.scoring.names, name ∉ s.unused → name ≠ s.search.score →
    ∃ reader, Graph.ofSettings (s.scoring.without [name]) r = .error (.unresolvedInput reader name)
  entry : (∃ reader, Graph.ofSettings (s.scoring.without [s.search.score]) r =
      .error (.unresolvedInput reader s.search.score)) ∨
    ∃ g', Graph.ofSettings (s.scoring.without [s.search.score]) r = .ok g' ∧
      g'.checkEntry s.search.score = .error (.unknownEntry s.search.score)

section

variable {s : Settings} {r : Registry} {g : Graph}

/-- What a used binding reads is used. -/
theorem Settings.used_of_read (hentry : s.search.score ∈ s.scoring.names)
    (hnames : s.scoring.names.Nodup) {b : DerivedBinding} (hb : b ∈ s.scoring.derived)
    (hused : b.name ∉ s.unused) {input : String} (hinput : input ∈ b.inputs) :
    input ∉ s.unused := by
  rw [mem_unused_iff hentry] at hused ⊢
  have hname : b.name ∈ s.scoring.names := List.mem_append_right _ (List.mem_map_of_mem hb)
  have hled : ReflTransGen s.scoring.Reads s.search.score b.name :=
    not_not.mp fun hnot => hused ⟨hname, hnot⟩
  exact fun hunused => hunused.2
    (hled.tail ((ScoringSettings.reads_iff hnames).mpr ⟨b, hb, rfl, hinput⟩))

theorem Settings.readingsOf_without {g' : Graph} (hg : Graph.ofSettings s.scoring r = .ok g)
    (hlists : g.Lists s.scoring r)
    (hg' : Graph.ofSettings (s.scoring.without s.unused) r = .ok g')
    (hlists' : g'.Lists (s.scoring.without s.unused) r) (hwithin : g'.Within g) {i : Nat}
    (hi : g'.position? s.search.score = some i)
    (hknown : ∀ b ∈ s.scoring.leaf, b.name ∈ s.unused → (Field.ofName? b.field).isSome)
    {moves : List Move} (hmoves : ∀ move ∈ moves, move.Concerns s.search.score) :
    g'.readingsOf moves = g.readingsOf moves := by
  have hdeclared : g.Declared := .inr ⟨_, _, hg⟩
  have hdeclared' : g'.Declared := .inr ⟨_, _, hg'⟩
  have hfields : g'.validateFields = g.validateFields := by
    rw [hlists.validateFields_eq, hlists'.validateFields_eq]
    refine checkFields_filter (fun name => decide (name ∉ s.unused)) fun b hb hdropped => ?_
    exact hknown b hb (by simpa using hdropped)
  cases hcheck : g.validateFields with
  | error e =>
      rw [Graph.readingsOf, Graph.readingsOf, hlists.ofGraph_of_error hcheck,
        hlists'.ofGraph_of_error (hfields.trans hcheck)]
  | ok _ =>
      obtain ⟨vs, hvs, _⟩ := hdeclared.wired.direct_rules.exists_ofGraph hdeclared.wired hcheck
      obtain ⟨vs', hvs', _⟩ :=
        hdeclared'.wired.direct_rules.exists_ofGraph hdeclared'.wired (hfields.trans hcheck)
      have hreads : vs.readings vs.start moves = g.readings .start moves :=
        (hdeclared.wired.direct_rules.faithful hdeclared.wired hvs).readings_eq hdeclared.wired
          (.start _) moves
      have hreads' : vs'.readings vs'.start moves = g'.readings .start moves :=
        (hdeclared'.wired.direct_rules.faithful hdeclared'.wired hvs').readings_eq hdeclared'.wired
          (.start _) moves
      rw [Graph.readingsOf, Graph.readingsOf, hvs, hvs', ok_bind, ok_bind, hreads, hreads',
        hwithin.readings_eq hdeclared'.wired hdeclared.wired hi .start hmoves]

/-- A name that the score leads to, other than the score itself, is read on the way. -/
theorem Settings.unresolved_without (h : s.scoring.WellFormed r)
    (hentry : s.search.score ∈ s.scoring.names) {name : String} (hname : name ∈ s.scoring.names)
    (hused : name ∉ s.unused) (hne : name ≠ s.search.score) :
    ∃ reader,
      Graph.ofSettings (s.scoring.without [name]) r = .error (.unresolvedInput reader name) := by
  rw [mem_unused_iff hentry] at hused
  have hled : ReflTransGen s.scoring.Reads s.search.score name :=
    not_not.mp fun hnot => hused ⟨hname, hnot⟩
  rcases hled.cases_tail with heq | ⟨reader, _, hread⟩
  · exact absurd heq hne
  · obtain ⟨b, hb, _, hinput⟩ := (ScoringSettings.reads_iff h.names).mp hread
    exact h.without_read hb hinput

/-- Without its score a graph does not resolve, or has no entry. -/
theorem Settings.without_entry (h : s.scoring.WellFormed r) :
    (∃ reader, Graph.ofSettings (s.scoring.without [s.search.score]) r =
        .error (.unresolvedInput reader s.search.score)) ∨
      ∃ g', Graph.ofSettings (s.scoring.without [s.search.score]) r = .ok g' ∧
        g'.checkEntry s.search.score = .error (.unknownEntry s.search.score) := by
  by_cases hread : ∃ b ∈ s.scoring.derived, s.search.score ∈ b.inputs
  · obtain ⟨b, hb, hinput⟩ := hread
    exact .inl (h.without_read hb hinput)
  · have hkept : (s.scoring.without [s.search.score]).WellFormed r := by
      refine h.keep fun b hb _ input hinput => decide_eq_true ?_
      rw [List.mem_singleton]
      exact fun heq => hread ⟨b, hb, heq ▸ hinput⟩
    obtain ⟨g', hg', hlists'⟩ := hkept.exists_graph
    have hnone : g'.type? s.search.score = none := by
      rw [← Option.not_isSome_iff_eq_none, Graph.type?_isSome_iff, Graph.position?_isSome_iff,
        Graph.mem_names, ← List.mem_map, hlists'.names_eq, ScoringSettings.mem_names_without]
      exact fun hmem => hmem.2 (List.mem_singleton_self _)
    exact .inr ⟨g', hg', by rw [Graph.checkEntry, hnone]⟩

/-- The bindings that settings are warned of can be left out together, and no other one can be left
out. -/
theorem unused_exact (hg : Graph.ofSettings s.scoring r = .ok g)
    (hentry : s.search.score ∈ s.scoring.names) : s.UnusedExact r g := by
  obtain ⟨h, hlists⟩ := ScoringSettings.wellFormed_of_ofSettings hg
  refine ⟨?_, fun name => Settings.unresolved_without h hentry, Settings.without_entry h⟩
  have hkept : (s.scoring.without s.unused).WellFormed r := by
    refine h.keep fun b hb hused input hinput => decide_eq_true ?_
    exact Settings.used_of_read hentry h.names hb (of_decide_eq_true hused) hinput
  obtain ⟨g', hg', hlists'⟩ := hkept.exists_graph
  have hwithin : g'.Within g := by
    refine hlists'.within hlists h.names ?_ ?_
    · exact fun b hb => (List.mem_filter.mp hb).1
    · exact fun b hb => (List.mem_filter.mp hb).1
  have hused : s.search.score ∉ s.unused := by
    rw [Settings.mem_unused_iff hentry]
    exact fun hunused => hunused.2 .refl
  obtain ⟨i, hi⟩ : ∃ i, g'.position? s.search.score = some i := by
    refine Graph.exists_position (Graph.mem_names.mpr ?_)
    have hmem := ScoringSettings.mem_names_without.mpr ⟨hentry, hused⟩
    rw [← hlists'.names_eq] at hmem
    exact List.mem_map.mp hmem
  have hwired := Graph.wired_of_ofSettings hg
  have hwired' := Graph.wired_of_ofSettings hg'
  refine ⟨g', hg', hwithin.checkEntry_eq hi, hwithin.valueAt?_eq hwired' hwired hi, ?_⟩
  intro hknown moves hmoves
  exact Settings.readingsOf_without hg hlists hg' hlists' hwithin hi hknown hmoves

end

def Settings.scoredByTitle : Settings :=
  { Settings.default with search := { Settings.default.search with score := "title_length" } }

theorem unusedExact_scoredByTitle :
    ∃ g, Graph.ofSettings Settings.scoredByTitle.scoring Registry.builtin = .ok g ∧
      Settings.scoredByTitle.unused = ["isbn", "isbn_length", "weird_score"] ∧
      Settings.scoredByTitle.UnusedExact Registry.builtin g :=
  ⟨_, rfl, by rw [Settings.unused_eq (by decide)]; cbv, unused_exact rfl (by decide)⟩

/-- The length of the title as the score, and a leaf of a field that the index lacks. -/
def Settings.readingAuthor : Settings :=
  { Settings.scoredByTitle with
    scoring := ⟨[⟨"title", "title", .string⟩, ⟨"bogus", "author", .string⟩],
      [⟨"title_length", "length", ["title"]⟩]⟩ }

/-- An unused leaf of an unknown field ends a search that does well without it. -/
theorem unused_unknownField_matters :
    ¬∀ (s : Settings) (r : Registry) (g g' : Graph), Graph.ofSettings s.scoring r = .ok g →
      s.search.score ∈ s.scoring.names →
      Graph.ofSettings (s.scoring.without s.unused) r = .ok g' →
      ∀ moves : List Move, (∀ move ∈ moves, move.Concerns s.search.score) →
        g'.readingsOf moves = g.readingsOf moves := by
  intro h
  have hunused : Settings.readingAuthor.unused = ["bogus"] := by
    rw [Settings.unused_eq (by decide)]
    cbv
  have hpruned : ∃ g', Graph.ofSettings
      (Settings.readingAuthor.scoring.without Settings.readingAuthor.unused) Registry.builtin =
        .ok g' ∧ ∃ readings, g'.readingsOf
          [.segment [.titled ["Dune"]], .doc 0, .value "title_length"] = .ok readings := by
    rw [hunused]
    exact ⟨_, rfl, _, rfl⟩
  obtain ⟨g', hg', readings, hreadings⟩ := hpruned
  have hsame := h Settings.readingAuthor Registry.builtin _ g' rfl (by decide) hg'
    [.segment [.titled ["Dune"]], .doc 0, .value "title_length"]
    (by simp [Move.Concerns, Settings.readingAuthor, Settings.scoredByTitle])
  rw [hreadings] at hsame
  cases hsame

end Catalogue
