import Catalogue.Proofs.Score.Providers
import Catalogue.Search.Scope

/-! # Kept values do not show

A search announces segments and documents to the fields and then to the variables, and reads
variables and scores in between. Whatever is announced and read before, a read gives the result of
direct evaluation where the search stands. -/

namespace Catalogue

/-! ## Direct evaluation obeys the rules -/

/-- Reading gives values of the kind that is read. -/
theorem Place.read_type {p : Place} {f : Field} {kind : FieldKind} {v : Value}
    (h : p.read f kind = .ok v) : v.type = kind.type := by
  cases kind <;>
    · obtain ⟨_, _, hv⟩ := bind_eq_ok_iff.mp h
      cases hv
      rfl

namespace Graph

variable {g : Graph}

def direct (g : Graph) : Answering := fun p i r => g.evaluate? p i = some r

theorem valuesOf_of_gathered {p : Place} {inputs : List Nat} {r : Except ScoreError (List Value)}
    (h : Gathered (g.direct p) inputs r) : valuesOf (g.evaluate? p) inputs = some r := by
  induction h with
  | nil => rfl
  | failed hi =>
      rw [direct] at hi
      simp only [valuesOf, hi]
  | cons hi _ ih =>
      rw [direct] at hi
      simp only [valuesOf, hi, ih, Option.map_some]

theorem Wired.evaluate?_type (hg : g.Wired) {p : Place} {i : Nat} {x : Value}
    (h : g.evaluate? p i = some (.ok x)) : g.typeAt? i = some x.type := by
  cases hv : g.variables[i]? with
  | none =>
      rw [evaluate?_eq_none hv] at h
      cases h
  | some v =>
      have hwired := hg i v hv
      rw [hg.evaluate?_eq hv, Variable.evaluate] at h
      rw [typeAt?, hv, Option.map_some, Option.some.injEq]
      cases hs : v.source with
      | leaf field kind =>
          simp only [hs] at h
          obtain ⟨f, _, hread⟩ := Option.map_eq_some_iff.mp h
          rw [hwired.leaf hs, Place.read_type hread]
      | derived inputs f =>
          simp only [hs] at h
          split at h
          · cases h
          · cases h
          · obtain ⟨y, hy, hxy⟩ := Option.map_eq_some_iff.mp h
            obtain ⟨as, _, rfl⟩ := Option.map_eq_some_iff.mp hy
            cases hxy
            exact (hwired.derived hs).1

theorem Wired.direct_rules (hg : g.Wired) : EvaluationRules g g.direct where
  typed := hg.evaluate?_type
  leaf {p i v field kind f} hv hs hf := by
    rw [direct, hg.evaluate?_eq hv]
    simp only [Variable.evaluate, hs, hf, Option.map_some]
  failed {p i v inputs f e} hv hs hgathered := by
    rw [direct, hg.evaluate?_eq hv]
    simp only [Variable.evaluate, hs, valuesOf_of_gathered hgathered]
  applied {p i v inputs f values arguments} hv hs hgathered harguments := by
    rw [direct, hg.evaluate?_eq hv]
    simp only [Variable.evaluate, hs, valuesOf_of_gathered hgathered, Operation.applyTo?,
      harguments, Option.map_some]

end Graph

/-! ## Announcements and reads -/

/-- What happens to the variables of a search: a segment or a document is announced, or a variable
or the score of an entry point is read. -/
inductive Move where
  | segment (s : Segment)
  | doc (number : Nat)
  | value (name : String)
  | score (name : String)

/-- What a read gives: for a variable its value, if there is such a variable, and for an entry
point its score, unless it is none. -/
inductive Reading where
  | value (result : Option (Except ScoreError Value))
  | score (result : Except GraphError (Except ScoreError Float32))

def Variables.readValue (vs : Variables) (name : String) (s : ScoreState) :
    Reading × ScoreState :=
  match vs.value? name with
  | none => (.value none, s)
  | some p =>
    let (result, s) := (ExceptT.run p).run s
    (.value (some result), s)

def Variables.readScore (vs : Variables) (name : String) (s : ScoreState) :
    Reading × ScoreState :=
  match vs.scoreFunction name with
  | .error e => (.score (.error e), s)
  | .ok score =>
    let (result, s) := (ExceptT.run score).run s
    (.score (.ok result), s)

/-- What the reads among some moves give, in order. Announcements go through the context of the
search. -/
def Variables.readings (vs : Variables) : ScoreState → List Move → List Reading
  | _, [] => []
  | s, .segment segment :: rest => vs.readings (searchContext.onSegment segment s).2 rest
  | s, .doc number :: rest => vs.readings (searchContext.onDoc number s) rest
  | s, .value name :: rest =>
    let (reading, s) := vs.readValue name s
    reading :: vs.readings s rest
  | s, .score name :: rest =>
    let (reading, s) := vs.readScore name s
    reading :: vs.readings s rest

def Graph.entryAt (g : Graph) (p : Place) (name : String) :
    Except GraphError (Except ScoreError Float32) := do
  g.checkEntry name
  match g.scoreAt? p name with
  | some r => return r
  | none => .error (.unknownEntry name)

/-- What the reads among some moves give when every read evaluates directly. -/
def Graph.readings (g : Graph) : Place → List Move → List Reading
  | _, [] => []
  | p, .segment segment :: rest => g.readings (p.enter segment) rest
  | p, .doc number :: rest => g.readings (p.moveTo number) rest
  | p, .value name :: rest => .value (g.valueAt? p name) :: g.readings p rest
  | p, .score name :: rest => .score (g.entryAt p name) :: g.readings p rest

/-! ## Reads give what direct evaluation gives -/

section

variable {g : Graph} {vs : Variables} {answers : Answering}

theorem ScoreState.Keeps.onSegment {s : ScoreState} (h : s.Keeps answers) (segment : Segment) :
    (searchContext.onSegment segment s).2.Keeps answers :=
  h.announce (s.place.enter segment)

theorem ScoreState.Keeps.onDoc {s : ScoreState} (h : s.Keeps answers) (number : Nat) :
    (searchContext.onDoc number s).Keeps answers :=
  h.announce (s.place.moveTo number)

/-- Reading a variable leaves the search where it stands, with what is kept right. -/
theorem Variables.Faithful.readValue_steady (h : vs.Faithful g answers) {s : ScoreState}
    (hs : s.Keeps answers) (name : String) : Steady answers s (vs.readValue name s).2 := by
  unfold readValue
  cases hp : vs.value? name with
  | none => exact .refl hs
  | some p =>
      obtain ⟨_, _, hanswers⟩ := h.value?_answers hp
      exact (hanswers s hs).2

theorem Variables.Faithful.readScore_steady (h : vs.Faithful g answers)
    (rules : EvaluationRules g answers) {s : ScoreState} (hs : s.Keeps answers) (name : String) :
    Steady answers s (vs.readScore name s).2 := by
  unfold readScore
  cases he : g.checkEntry name with
  | error e =>
      rw [h.scoreFunction_eq_error he]
      exact .refl hs
  | ok _ =>
      obtain ⟨_, score, _, hscore, hanswers⟩ := h.scoreFunction_answers rules he
      rw [hscore]
      exact (hanswers s hs).2

theorem Variables.Faithful.readValue_eq (h : vs.Faithful g g.direct) {s : ScoreState}
    (hs : s.Keeps g.direct) (name : String) :
    (vs.readValue name s).1 = .value (g.valueAt? s.place name) := by
  unfold readValue
  cases hp : vs.value? name with
  | none =>
      rw [Graph.valueAt?, h.value?_eq_none_iff.mp hp]
      rfl
  | some p =>
      obtain ⟨i, hi, hanswers⟩ := h.value?_answers hp
      rw [Graph.valueAt?, hi]
      exact congrArg Reading.value (hanswers s hs).1.symm

/-- The number of an entry point is the data of its variable. -/
theorem Graph.scoreAt?_eq {p : Place} {name : String} {i : Nat} {r : Except ScoreError Float32}
    (hi : g.position? name = some i) (h : g.direct p i (r.map (Value.mk .float))) :
    g.scoreAt? p name = some r := by
  have hvalue : g.valueAt? p name = some (r.map (Value.mk .float)) := by
    rw [valueAt?, hi]
    exact h
  rw [scoreAt?, hvalue]
  cases r with
  | error e => rfl
  | ok x => exact congrArg (Option.map Except.ok) (Value.as?_self .float x)

theorem Variables.Faithful.readScore_eq (h : vs.Faithful g g.direct) (hg : g.Wired)
    {s : ScoreState} (hs : s.Keeps g.direct) (name : String) :
    (vs.readScore name s).1 = .score (g.entryAt s.place name) := by
  unfold readScore
  cases he : g.checkEntry name with
  | error e =>
      rw [h.scoreFunction_eq_error he, Graph.entryAt, he]
      rfl
  | ok _ =>
      obtain ⟨i, score, hi, hscore, hanswers⟩ := h.scoreFunction_answers hg.direct_rules he
      rw [hscore, Graph.entryAt, he, Graph.scoreAt?_eq hi (hanswers s hs).1]
      rfl

/-- From any state whose kept values are right, reads give what direct evaluation gives. -/
theorem Variables.Faithful.readings_eq (h : vs.Faithful g g.direct) (hg : g.Wired) {s : ScoreState}
    (hs : s.Keeps g.direct) (moves : List Move) :
    vs.readings s moves = g.readings s.place moves := by
  induction moves generalizing s with
  | nil => rfl
  | cons move rest ih =>
      cases move with
      | segment segment => exact ih (hs.onSegment segment)
      | doc number => exact ih (hs.onDoc number)
      | value name =>
          have hread := h.readValue_eq hs name
          have hsteady := h.readValue_steady hs name
          have hrest := ih hsteady.keeps
          rw [hsteady.place] at hrest
          exact congrArg₂ List.cons hread hrest
      | score name =>
          have hread := h.readScore_eq hg hs name
          have hsteady := h.readScore_steady hg.direct_rules hs name
          have hrest := ih hsteady.keeps
          rw [hsteady.place] at hrest
          exact congrArg₂ List.cons hread hrest

end

/-- Keeping values does not show: over any moves of a search, every read gives what direct
evaluation gives where the search stands then. -/
theorem readings_eq_direct {g : Graph} {vs : Variables} (hg : g.Declared)
    (hvs : Variables.ofGraph g = .ok vs) (moves : List Move) :
    vs.readings vs.start moves = g.readings .start moves :=
  (hg.wired.direct_rules.faithful hg.wired hvs).readings_eq hg.wired (.start _) moves

def Graph.titleLength : Graph :=
  empty.declareEach
    [.leaf "title" "title" .string, .derived "length" ["title"] Registry.length]

theorem Graph.declared_titleLength : titleLength.Declared := .inl ⟨_, rfl⟩

def Document.titled (titles : List String) : Document := ⟨fieldValues titles [], fun _ => []⟩

theorem readings_of_titleLength :
    ∃ vs, Variables.ofGraph Graph.titleLength = .ok vs ∧
      vs.readings vs.start
        [.value "length", .segment [.titled ["Dune"], .titled []], .score "length", .doc 0,
          .score "length", .value "title", .doc 1, .score "length", .doc 0, .score "length",
          .segment [], .doc 0, .value "author"] =
        [.value (some (.error .noContext)), .score (.ok (.error .noContext)), .score (.ok (.ok 4.0)),
          .value (some (.ok ⟨.string, "Dune"⟩)), .score (.ok (.error (.missingField "title" 1))),
          .score (.ok (.ok 4.0)), .value none] :=
  ⟨_, rfl, (readings_eq_direct Graph.declared_titleLength rfl _).trans rfl⟩

end Catalogue
