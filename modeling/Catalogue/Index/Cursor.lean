/-!
# Cursors over matching documents

A cursor stands on one matching document of a segment and moves forward only. Behind the last
match it stands on a number that no document has.
-/

namespace Catalogue

/-- The place behind the last match. -/
def noMoreDocs : Nat := 2147483647

/-- The matches from the current one on, in increasing order, each with its score; the score when
none is left; and an estimate of how many there were. -/
structure Cursor where
  entries : List (Nat × Float32)
  scoreAtEnd : Float32
  sizeHint : Nat

namespace Cursor

/-- No matches. -/
def empty : Cursor := ⟨[], 0.0, 0⟩

/-- The current document. -/
def doc (c : Cursor) : Nat :=
  match c.entries with
  | [] => noMoreDocs
  | (d, _) :: _ => d

/-- The score of the current document. -/
def score (c : Cursor) : Float32 :=
  match c.entries with
  | [] => c.scoreAtEnd
  | (_, x) :: _ => x

/-- Moves to the next match. -/
def advance (c : Cursor) : Cursor := { c with entries := c.entries.tail }

/-- Moves to the first match at or after a document, unless the cursor is there already. -/
def seek (c : Cursor) (target : Nat) : Cursor :=
  { c with entries := c.entries.dropWhile fun e => decide (e.1 < target) }

/-- The documents still to come, the current one first. -/
def docs (c : Cursor) : List Nat := c.entries.map Prod.fst

/-- Matches that all have one score. -/
def ofDocs (docs : List Nat) (score : Float32) : Cursor :=
  ⟨docs.map fun d => (d, score), score, docs.length⟩

/-- The same matches, all with one score. -/
def scored (c : Cursor) (score : Float32) : Cursor :=
  ⟨c.entries.map fun e => (e.1, score), score, c.sizeHint⟩

/-- The matches of a cursor are documents in increasing order. -/
structure Ordered (c : Cursor) : Prop where
  increasing : c.docs.Pairwise (· < ·)
  bounded : ∀ d ∈ c.docs, d < noMoreDocs

@[simp] theorem docs_advance (c : Cursor) : c.advance.docs = c.docs.tail := by
  simp [docs, advance, List.map_tail]

@[simp] theorem docs_seek (c : Cursor) (target : Nat) :
    (c.seek target).docs = c.docs.dropWhile fun d => decide (d < target) := by
  obtain ⟨entries, _, _⟩ := c
  simp only [docs, seek]
  induction entries with
  | nil => rfl
  | cons e rest ih => simp only [List.dropWhile_cons, List.map_cons]; split <;> simp_all

@[simp] theorem docs_ofDocs (ds : List Nat) (x : Float32) : (ofDocs ds x).docs = ds := by
  simp [docs, ofDocs, Function.comp_def]

@[simp] theorem docs_scored (c : Cursor) (x : Float32) : (c.scored x).docs = c.docs := by
  simp [docs, scored, Function.comp_def]

/-- A cursor on a document has that document still to come. -/
theorem entries_ne_nil_of_doc_ne {c : Cursor} (h : c.doc ≠ noMoreDocs) : c.entries ≠ [] := by
  intro he
  simp [doc, he] at h

end Cursor

end Catalogue
