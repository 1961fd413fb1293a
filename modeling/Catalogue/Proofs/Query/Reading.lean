import Catalogue.Proofs.Json.Written
import Catalogue.Proofs.Outcome
import Catalogue.Query.Json

/-! # Reading what a writer left

A written query is read back from a value in memory and from a text, if its numbers are and if it
nests no deeper than a text may. How its numbers scan is left open: a value in memory holds them,
a text only shows them. -/

namespace Catalogue

open Json

/-! ## Nesting -/

namespace Json

mutual
/-- How many brackets of a value stand in one another. -/
def nesting : Json → Nat
  | .array items => nestingOfItems items + 1
  | .object members => nestingOfMembers members + 1
  | _ => 0

def nestingOfItems : List Json → Nat
  | [] => 0
  | item :: rest => max item.nesting (nestingOfItems rest)

def nestingOfMembers : List (String × Json) → Nat
  | [] => 0
  | (_, value) :: rest => max value.nesting (nestingOfMembers rest)
end

@[simp] theorem nesting_ofDouble (x : Float) : (ofDouble x).nesting = 0 := by
  unfold ofDouble
  split <;> rfl

@[simp] theorem nesting_ofSingle (x : Float32) : (ofSingle x).nesting = 0 := by
  unfold ofSingle
  split <;> rfl

/-- Whether data of some nesting can be read in a form: only a text bounds it. -/
def Form.Admits : Form → Nat → Prop
  | .text depth, nesting => nesting < depth
  | .value, _ => True

theorem Form.Admits.mono {form : Form} {m n : Nat} (h : form.Admits n) (hle : m ≤ n) :
    form.Admits m := by
  cases form with
  | text depth => exact Nat.lt_of_le_of_lt hle h
  | value => trivial

/-- A form that admits a bracket is entered, and admits what stands in it. -/
theorem Form.Admits.enter {form : Form} {n : Nat} (h : form.Admits (n + 1)) :
    ∃ inner, form.enter = .ok inner ∧ inner.Admits n := by
  cases form with
  | value => exact ⟨.value, rfl, trivial⟩
  | text depth =>
      obtain ⟨d, rfl⟩ : ∃ d, depth = d + 2 := ⟨depth - 2, by have : n + 1 < depth := h; omega⟩
      exact ⟨.text (d + 1), rfl, Nat.lt_of_succ_lt_succ h⟩

/-- A form that admits an object with one member is entered, and admits that member. -/
theorem Form.Admits.enterMember {form : Form} {name : String} {value : Json}
    (h : form.Admits (Json.object [(name, value)]).nesting) :
    ∃ inner, form.enter = .ok inner ∧ inner.Admits value.nesting := by
  obtain ⟨inner, henter, hinner⟩ := h.enter
  exact ⟨inner, henter, hinner.mono (Nat.le_max_left _ _)⟩

/-- A form that admits an object with two members is entered, and admits both. -/
theorem Form.Admits.enterPair {form : Form} {first second : String} {a b : Json}
    (h : form.Admits (Json.object [(first, a), (second, b)]).nesting) :
    ∃ inner, form.enter = .ok inner ∧ inner.Admits a.nesting ∧ inner.Admits b.nesting := by
  obtain ⟨inner, henter, hinner⟩ := h.enter
  simp only [nestingOfMembers] at hinner
  exact ⟨inner, henter, hinner.mono (by omega), hinner.mono (by omega)⟩

end Json

/-! ## Tags, pairs and lists -/

section Readers

variable {α β σ : Type} {form inner : Form}

theorem readTagged_member {variants : List String} {read : String → Content → Read α}
    {name : String} {scan : Scan} (hname : variants.contains name = true)
    (henter : form.enter = .ok inner) :
    readTagged variants read form (.object [(some name, scan)] .closed) =
      read name (.given inner scan) := by
  cases form with
  | value =>
      cases henter
      simp only [readTagged, knownTag, hname, if_true]
      rfl
  | text depth =>
      simp only [readTagged, henter, knownTag, hname, if_true, ok_bind]
      cases read name (.given inner scan) <;> rfl

theorem record_object (shape : Shape σ) (form : Form) (members : List (Option String × Scan))
    (close : Close) : Content.record shape (.given form (.object members close)) =
      shape.read form (.object members close) := by
  cases form <;> rfl

theorem pairShape_read (expected : String) {first second : String} (hne : second ≠ first)
    {readFirst : Reader α} {readSecond : Reader β} {a b : Scan} {x : α} {y : β}
    (henter : form.enter = .ok inner) (hx : readFirst inner a = .ok x)
    (hy : readSecond inner b = .ok y) :
    (pairShape expected first second readFirst readSecond).read form
      (.object [(some first, a), (some second, b)] .closed) = .ok (some x, some y) := by
  simp [Shape.read, Shape.readMembers, pairShape, fill, hx, hy, hne, henter, Close.next, ok_bind]

theorem readList_array {read : Reader α} {items : List Scan} {values : List α}
    (henter : form.enter = .ok inner) (h : items.mapM (read inner) = .ok values) :
    readList read form (.array items .closed) = .ok values := by
  simp only [readList, henter, h, Close.next, ok_bind]
  rfl

end Readers

/-! ## Numbers of a query -/

def Term.Each (p : Float → Prop) : Term → Prop
  | string _ | boolean _ => True
  | number x => p x
  | point place => p place.latitude ∧ p place.longitude

mutual
/-- A query whose numbers have one property and whose boosts another. -/
def Query.Each (p : Float → Prop) (b : Float32 → Prop) : Query → Prop
  | .matchAll | .text .. => True
  | .term _ t => t.Each p
  | .boolean clauses _ => EachClause p b clauses
  | .constantScore q boost | .boosted q boost => q.Each p b ∧ b boost
  | .range r => r.lower.Each p ∧ r.upper.Each p

def EachClause (p : Float → Prop) (b : Float32 → Prop) : List (Occur × Query) → Prop
  | [] => True
  | (_, q) :: rest => q.Each p b ∧ EachClause p b rest
end

section Each

variable {p p' p'' : Float → Prop} {b b' b'' : Float32 → Prop}

theorem Term.Each.both {t : Term} (h : t.Each p) (h' : t.Each p') (hp : ∀ x, p x → p' x → p'' x) :
    t.Each p'' := by
  cases t with
  | string s => trivial
  | boolean b => trivial
  | number x => exact hp x h h'
  | point place => exact ⟨hp _ h.1 h'.1, hp _ h.2 h'.2⟩

mutual
/-- What follows from two properties of each number holds of each number. -/
theorem Query.Each.both (hp : ∀ x, p x → p' x → p'' x) (hb : ∀ x, b x → b' x → b'' x) :
    {q : Query} → q.Each p b → q.Each p' b' → q.Each p'' b''
  | .matchAll, _, _ => trivial
  | .text .., _, _ => trivial
  | .term _ _, h, h' => Term.Each.both h h' hp
  | .boolean _ _, h, h' => eachClause_both hp hb h h'
  | .constantScore _ _, h, h' | .boosted _ _, h, h' =>
    ⟨Query.Each.both hp hb h.1 h'.1, hb _ h.2 h'.2⟩
  | .range _, h, h' => ⟨Term.Each.both h.1 h'.1 hp, Term.Each.both h.2 h'.2 hp⟩

theorem eachClause_both (hp : ∀ x, p x → p' x → p'' x) (hb : ∀ x, b x → b' x → b'' x) :
    {clauses : List (Occur × Query)} → EachClause p b clauses → EachClause p' b' clauses →
    EachClause p'' b'' clauses
  | [], _, _ => trivial
  | (_, _) :: _, h, h' => ⟨Query.Each.both hp hb h.1 h'.1, eachClause_both hp hb h.2 h'.2⟩
end

theorem Query.Each.imp {q : Query} (h : q.Each p b) (hp : ∀ x, p x → p' x)
    (hb : ∀ x, b x → b' x) : q.Each p' b' :=
  Query.Each.both (fun x hx _ => hp x hx) (fun x hx _ => hb x hx) h h

end Each

section Queries

variable {number : Number → Scan}

abbrev ReadsCount (number : Number → Scan) (n : UInt64) : Prop :=
  ∀ form, readCount form (number (.natural n)) = .ok n

abbrev ReadsDouble (number : Number → Scan) (x : Float) : Prop :=
  ∀ form, readDouble form (scanWith number (ofDouble x)) = .ok x

abbrev ReadsSingle (number : Number → Scan) (x : Float32) : Prop :=
  ∀ form, readSingle form (scanWith number (ofSingle x)) = .ok x

theorem Point.read_members {p : Point} {form inner : Form} (henter : form.enter = .ok inner)
    (hlat : ReadsDouble number p.latitude) (hlon : ReadsDouble number p.longitude) :
    Point.read form (.object [(some "latitude", scanWith number (ofDouble p.latitude)),
      (some "longitude", scanWith number (ofDouble p.longitude))] .closed) = .ok p := by
  have hread := pairShape_read "struct Point" (show "longitude" ≠ "latitude" by decide) henter
    (hlat inner) (hlon inner)
  rw [Point.read, hread]
  rfl

theorem Term.read_scanWith {t : Term} (h : t.Each (ReadsDouble number)) {form : Form}
    (hform : form.Admits t.toJson.nesting) :
    Term.read form (scanWith number t.toJson) = .ok t := by
  simp only [Term.toJson]
  cases t with
  | string s =>
      obtain ⟨inner, henter, _⟩ := hform.enter
      simp only [scanWith, membersWith, Term.read]
      rw [readTagged_member (by decide) henter]
      rfl
  | boolean b =>
      obtain ⟨inner, henter, _⟩ := hform.enter
      simp only [scanWith, membersWith, Term.read]
      rw [readTagged_member (by decide) henter]
      rfl
  | number x =>
      obtain ⟨inner, henter, _⟩ := hform.enter
      simp only [scanWith, membersWith, Term.read]
      rw [readTagged_member (by decide) henter]
      simp only [Content.single]
      rw [h inner, Except.map_ok]
  | point p =>
      obtain ⟨inner, henter, hinner⟩ := hform.enterMember
      obtain ⟨last, hlast, _⟩ := hinner.enterPair
      simp only [scanWith, membersWith, Term.read]
      rw [readTagged_member (by decide) henter]
      simp only [Content.single, Point.read_members hlast h.1 h.2, Except.map_ok]
      rfl

theorem Range.read_scanWith {r : Range} (hlower : r.lower.Each (ReadsDouble number))
    (hupper : r.upper.Each (ReadsDouble number)) {form : Form}
    (hform : form.Admits r.toJson.nesting) :
    Range.read form (scanWith number r.toJson) = .ok r := by
  obtain ⟨inner, henter, hinner⟩ := hform.enter
  simp only [nestingOfMembers, nesting] at hinner
  have hreadLower := Term.read_scanWith hlower (hinner.mono (by omega))
  have hreadUpper := Term.read_scanWith hupper (hinner.mono (by omega))
  simp [Range.toJson, Range.read, scanWith, membersWith, Shape.read, Shape.readMembers,
    Range.shape, fill, henter, Close.next, readString, readBool, hreadLower, hreadUpper, ok_bind,
    require, Range.make_of_kind_eq r.same_kind]

/-! ## Queries

A reader goes down as many levels as the scan is high, so the induction is on the query with any
number of levels that is enough. -/

theorem Occur.ofTag_tag (o : Occur) : Occur.ofTag o.tag = o := by
  cases o <;> rfl

theorem Occur.contains_tag (o : Occur) : Occur.tags.contains o.tag = true := by
  cases o <;> rfl

def readClause (readQuery : Reader Query) : Reader (Occur × Query) :=
  readTagged Occur.tags fun tag content => do
    let q ← content.single readQuery
    return (Occur.ofTag tag, q)

section Bodies

variable {level : Nat} {form inner : Form} {members : List (Option String × Scan)} {close : Close}

theorem readClause_member {readQuery : Reader Query} (henter : form.enter = .ok inner) (o : Occur)
    (scan : Scan) : readClause readQuery form (.object [(some o.tag, scan)] .closed) = (do
      let q ← readQuery inner scan
      return (o, q)) := by
  rw [readClause, readTagged_member o.contains_tag henter, Occur.ofTag_tag]
  rfl

theorem Query.readWithin_boolean (henter : form.enter = .ok inner) :
    Query.readWithin (level + 1) form (.object [(some "boolean", .object members close)] .closed) =
      (do
        let found ← (Query.booleanShape (readClause (Query.readWithin level))).read inner
          (.object members close)
        let clauses ← require "clauses" found.1
        return .boolean clauses (found.2.getD 0)) := by
  rw [Query.readWithin, readTagged_member (by decide) henter]
  simp only [record_object]
  rfl

theorem Query.readWithin_constantScore (henter : form.enter = .ok inner) :
    Query.readWithin (level + 1) form
      (.object [(some "constant_score", .object members close)] .closed) = (do
        let (q, boost) ← requirePair "query" "boost" (← (Query.weightedShape "ConstantScore"
          (Query.readWithin level)).read inner (.object members close))
        return .constantScore q boost) := by
  rw [Query.readWithin, readTagged_member (by decide) henter]
  simp only [record_object]

theorem Query.readWithin_boosted (henter : form.enter = .ok inner) :
    Query.readWithin (level + 1) form (.object [(some "boosted", .object members close)] .closed) =
      (do
        let (q, boost) ← requirePair "query" "boost" (← (Query.weightedShape "Boosted"
          (Query.readWithin level)).read inner (.object members close))
        return .boosted q boost) := by
  rw [Query.readWithin, readTagged_member (by decide) henter]
  simp only [record_object]

end Bodies

/-- The readers of the two fields of a boolean query find what was written. -/
theorem Query.booleanShape_read {readClause : Reader (Occur × Query)} {items : List Scan}
    {clauses : List (Occur × Query)} {minimum : UInt64} {form inner list : Form}
    (henter : form.enter = .ok inner) (hlist : inner.enter = .ok list)
    (hcount : ReadsCount number minimum) (h : items.mapM (readClause list) = .ok clauses) :
    (Query.booleanShape readClause).read form (.object [(some "clauses", .array items .closed),
      (some "minimum_should_match", number (.natural minimum))] .closed) =
      .ok (some clauses, some minimum) :=
  pairShape_read "struct variant QueryNode::Boolean" (by decide) henter (readList_array hlist h)
    (hcount inner)

/-- The readers of the two fields of a query with a boost find what was written. -/
theorem Query.weightedShape_read (variant : String) {readQuery : Reader Query} {scan : Scan}
    {q : Query} {boost : Float32} {form inner : Form} (henter : form.enter = .ok inner)
    (hq : readQuery inner scan = .ok q) (hboost : ReadsSingle number boost) :
    (Query.weightedShape variant readQuery).read form (.object [(some "query", scan),
      (some "boost", scanWith number (ofSingle boost))] .closed) = .ok (some q, some boost) :=
  pairShape_read _ (by decide) henter hq (hboost inner)

mutual
theorem Query.readWithin_scanWith (hcount : ∀ n, ReadsCount number n) : (q : Query) →
    q.Each (ReadsDouble number) (ReadsSingle number) → (level : Nat) → (form : Form) →
    (scanWith number q.toJson).height ≤ level → form.Admits q.toJson.nesting →
    Query.readWithin level form (scanWith number q.toJson) = .ok q
  | q, _, 0, _, hlevel, _ => by
      cases q <;> simp [Query.toJson, scanWith, Scan.height] at hlevel
  | .matchAll, _, _ + 1, form, _, _ => by
      cases form <;> rfl
  | .term field t, h, _ + 1, form, _, hform => by
      simp only [Query.toJson] at hform ⊢
      obtain ⟨inner, henter, hinner⟩ := hform.enterMember
      obtain ⟨last, hlast, _, hterm⟩ := hinner.enterPair
      have hread := pairShape_read "struct variant QueryNode::Term"
        (show "term" ≠ "field" by decide) hlast
        (show readString last (.string (some field)) = .ok field from rfl)
        (Term.read_scanWith h hterm)
      simp only [scanWith, membersWith, Query.readWithin]
      rw [readTagged_member (by decide) henter]
      simp only [record_object, hread]
      rfl
  | .text field s, _, _ + 1, form, _, hform => by
      simp only [Query.toJson] at hform ⊢
      obtain ⟨inner, henter, hinner⟩ := hform.enterMember
      obtain ⟨last, hlast, _⟩ := hinner.enterPair
      have hread := pairShape_read "struct variant QueryNode::Match"
        (show "text" ≠ "field" by decide) hlast
        (show readString last (.string (some field)) = .ok field from rfl)
        (show readString last (.string (some s)) = .ok s from rfl)
      simp only [scanWith, membersWith, Query.readWithin]
      rw [readTagged_member (by decide) henter]
      simp only [record_object, hread]
      rfl
  | .boolean clauses minimum, h, level + 1, form, hlevel, hform => by
      simp only [Query.toJson] at hlevel hform ⊢
      simp only [scanWith, membersWith, Scan.height, membersHeight] at hlevel
      obtain ⟨inner, henter, hinner⟩ := hform.enterMember
      obtain ⟨body, hbody, hitems, _⟩ := hinner.enterPair
      obtain ⟨list, hlist, hclauses⟩ := hitems.enter
      have hread := Query.booleanShape_read hbody hlist (hcount minimum)
        (readClauses_scanWith hcount clauses h level list (by omega) hclauses)
      simp only [scanWith, membersWith]
      rw [Query.readWithin_boolean henter, hread]
      rfl
  | .constantScore q boost, h, level + 1, form, hlevel, hform => by
      simp only [Query.toJson] at hlevel hform ⊢
      simp only [scanWith, membersWith, Scan.height, membersHeight] at hlevel
      obtain ⟨inner, henter, hinner⟩ := hform.enterMember
      obtain ⟨last, hlast, hquery, _⟩ := hinner.enterPair
      have hread := Query.weightedShape_read "ConstantScore" hlast
        (q.readWithin_scanWith hcount h.1 level last (by omega) hquery) h.2
      simp only [scanWith, membersWith]
      rw [Query.readWithin_constantScore henter, hread]
      rfl
  | .boosted q boost, h, level + 1, form, hlevel, hform => by
      simp only [Query.toJson] at hlevel hform ⊢
      simp only [scanWith, membersWith, Scan.height, membersHeight] at hlevel
      obtain ⟨inner, henter, hinner⟩ := hform.enterMember
      obtain ⟨last, hlast, hquery, _⟩ := hinner.enterPair
      have hread := Query.weightedShape_read "Boosted" hlast
        (q.readWithin_scanWith hcount h.1 level last (by omega) hquery) h.2
      simp only [scanWith, membersWith]
      rw [Query.readWithin_boosted henter, hread]
      rfl
  | .range r, h, _ + 1, form, _, hform => by
      simp only [Query.toJson] at hform ⊢
      obtain ⟨inner, henter, hinner⟩ := hform.enterMember
      simp only [scanWith, membersWith, Query.readWithin]
      rw [readTagged_member (by decide) henter]
      simp only [Content.single, Range.read_scanWith h.1 h.2 hinner, Except.map_ok]
      rfl

theorem readClauses_scanWith (hcount : ∀ n, ReadsCount number n) :
    (clauses : List (Occur × Query)) →
    EachClause (ReadsDouble number) (ReadsSingle number) clauses → (level : Nat) → (form : Form) →
    itemsHeight (itemsWith number (clausesToJson clauses)) ≤ level + 1 →
    form.Admits (nestingOfItems (clausesToJson clauses)) →
    (itemsWith number (clausesToJson clauses)).mapM (readClause (Query.readWithin level) form) =
      .ok clauses
  | [], _, _, _, _, _ => rfl
  | (occur, q) :: rest, h, level, form, hlevel, hform => by
      simp only [clausesToJson, nestingOfItems] at hform
      simp only [clausesToJson, itemsWith, scanWith, membersWith, itemsHeight, Scan.height,
        membersHeight] at hlevel
      obtain ⟨inner, henter, hinner⟩ := (hform.mono (Nat.le_max_left _ _)).enterMember
      have hrest := readClauses_scanWith hcount rest h.2 level form (by omega)
        (hform.mono (Nat.le_max_right _ _))
      have hquery := q.readWithin_scanWith hcount h.1 level inner (by omega) hinner
      simp only [clausesToJson, itemsWith, scanWith, membersWith, List.mapM_cons]
      rw [hrest, readClause_member henter, hquery]
      rfl
end

end Queries

end Catalogue
