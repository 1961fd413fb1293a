import Catalogue.Proofs.Query.Reading

/-! # Queries as JSON

A query is written as tagged objects in objects. Reading such a value gives the query again,
whatever its clauses, texts and numbers, as long as the numbers are finite. -/

namespace Catalogue

open Json

/-- Whether a term is written with finite numbers, if with any. -/
def Term.isFinite : Term → Bool
  | string _ | boolean _ => true
  | number x => x.isFinite
  | point p => p.latitude.isFinite && p.longitude.isFinite

mutual
/-- Whether all numbers and boosts of a query are finite. Others have no form in JSON. -/
def Query.isFinite : Query → Bool
  | .matchAll | .text .. => true
  | .term _ t => t.isFinite
  | .boolean clauses _ => clausesFinite clauses
  | .constantScore q boost | .boosted q boost => q.isFinite && boost.isFinite
  | .range r => r.lower.isFinite && r.upper.isFinite

def clausesFinite : List (Occur × Query) → Bool
  | [] => true
  | (_, q) :: rest => q.isFinite && clausesFinite rest
end

/-! ## Finite numbers are read back -/

abbrev held (n : Number) : Scan := .number (some n)

theorem readsDouble_of_isFinite {x : Float} (h : x.isFinite = true) : ReadsDouble held x := by
  intro form
  simp [ofDouble, h, scanWith, readDouble, Number.toDouble]

theorem readsSingle_of_isFinite {x : Float32} (h : x.isFinite = true) : ReadsSingle held x := by
  intro form
  simp [ofSingle, h, scanWith, readSingle, Number.toSingle]

theorem Term.each_of_isFinite {t : Term} (h : t.isFinite = true) : t.Each (ReadsDouble held) := by
  cases t with
  | string s => trivial
  | boolean b => trivial
  | number x => exact readsDouble_of_isFinite h
  | point p =>
      obtain ⟨hlat, hlon⟩ := Bool.and_eq_true_iff.mp h
      exact ⟨readsDouble_of_isFinite hlat, readsDouble_of_isFinite hlon⟩

mutual
theorem Query.each_of_isFinite : (q : Query) → q.isFinite = true →
    q.Each (ReadsDouble held) (ReadsSingle held)
  | .matchAll, _ => trivial
  | .text .., _ => trivial
  | .term _ _, h => Term.each_of_isFinite h
  | .boolean clauses _, h => eachClause_of_finite clauses h
  | .constantScore q _, h | .boosted q _, h => by
      obtain ⟨hq, hboost⟩ := Bool.and_eq_true_iff.mp h
      exact ⟨q.each_of_isFinite hq, readsSingle_of_isFinite hboost⟩
  | .range _, h => by
      obtain ⟨hlower, hupper⟩ := Bool.and_eq_true_iff.mp h
      exact ⟨Term.each_of_isFinite hlower, Term.each_of_isFinite hupper⟩

theorem eachClause_of_finite : (clauses : List (Occur × Query)) → clausesFinite clauses = true →
    EachClause (ReadsDouble held) (ReadsSingle held) clauses
  | [], _ => trivial
  | (_, q) :: rest, h => by
      obtain ⟨hq, hrest⟩ := Bool.and_eq_true_iff.mp h
      exact ⟨q.each_of_isFinite hq, eachClause_of_finite rest hrest⟩
end

theorem Query.readWithin_toJson (q : Query) (h : q.isFinite = true) (level : Nat)
    (hlevel : (Scan.ofJson q.toJson).height ≤ level) :
    Query.readWithin level .value (.ofJson q.toJson) = .ok q := by
  rw [ofJson_eq] at hlevel ⊢
  exact q.readWithin_scanWith (fun _ _ => rfl) (q.each_of_isFinite h) level .value hlevel trivial

/-- A query is read back from the JSON it is written as. -/
theorem Query.readValue_toJson {q : Query} (h : q.isFinite = true) :
    readValue Query.read q.toJson = .ok q :=
  q.readWithin_toJson h _ (Nat.le_refl _)

/-- A query with most of what can be written: clauses in clauses, a quote in a text, a negative
zero, a number between integers and the largest minimum. -/
def Query.someOfAll : Query :=
  .boolean [(.must, .boosted (.constantScore .matchAll (-0.0)) 0.1),
    (.mustNot, .boolean [(.should, .text "title" "a\"b"),
      (.should, .term "isbn" (.point ⟨51.5, -0.1⟩))] 0),
    (.should, .range ⟨"isbn", .number (-0.0), .number 1990.5, true, false, rfl⟩)]
    18446744073709551615

theorem Query.readValue_someOfAll :
    readValue Query.read Query.someOfAll.toJson = .ok Query.someOfAll :=
  Query.readValue_toJson (by decide)

end Catalogue
