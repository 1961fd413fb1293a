import Catalogue.Analysis.Words

/-!
# Fields of the index

A title is analyzed into words. An ISBN is one token, whatever it holds.
-/

namespace Catalogue

/-- A field of the index. -/
inductive Field where
  | title
  | isbn
  deriving DecidableEq, Repr

namespace Field

/-- The name of a field. -/
def name : Field → String
  | title => "title"
  | isbn => "isbn"

/-- The position of a field in the index. -/
def number : Field → Nat
  | title => 0
  | isbn => 1

/-- The field of a name. -/
def ofName? (s : String) : Option Field :=
  if s = "title" then some title else if s = "isbn" then some isbn else none

theorem ofName?_name (f : Field) : ofName? f.name = some f := by cases f <;> rfl

theorem name_eq_of_ofName? {s : String} {f : Field} (h : ofName? s = some f) : f.name = s := by
  unfold ofName? at h
  split at h
  · next hs =>
      cases h
      exact hs.symm
  · split at h
    · next hs =>
        cases h
        exact hs.symm
    · cases h

theorem ofName?_eq_none_iff {s : String} : ofName? s = none ↔ ∀ f : Field, f.name ≠ s := by
  constructor
  · intro h f hf
    rw [← hf, ofName?_name] at h
    cases h
  · intro h
    cases hs : ofName? s with
    | none => rfl
    | some f => exact absurd (name_eq_of_ofName? hs) (h f)

end Field

/-- A way to cut text into tokens: by words, under a name that has to be registered with a
stemmer, or not at all. -/
inductive Tokenizer where
  | words
  | whole
  deriving DecidableEq

/-- The name a tokenizer is registered under. -/
def Tokenizer.name : Tokenizer → String
  | words => "quarry_text"
  | whole => "raw"

/-- The tokenizer of a field, if its text is looked up by tokens. -/
def Field.tokenizer? : Field → Option Tokenizer
  | title => some .words
  | isbn => some .whole

/-- The analysis in force: the stemmer of titles, once one is registered. -/
structure Analyzer where
  stemmer : Option Analysis.Stemmer

/-- The tokens of a text, if the tokenizer is registered. -/
def Analyzer.tokens? (a : Analyzer) (t : Tokenizer) (text : String) : Option (List String) :=
  match t with
  | .words => a.stemmer.map fun stem => Analysis.titleTokens stem text
  | .whole => some [text]

end Catalogue
