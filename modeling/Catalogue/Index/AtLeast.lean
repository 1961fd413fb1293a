import Catalogue.Index.Cursor

/-!
# Documents that enough cursors share

A cursor over several others that stops on every document at least so many of them stand on. The
others stand at or after the current document; those on a document that too few share are moved
on.
-/

namespace Catalogue

/-- A cursor that stops where at least `minimum` of its parts do. -/
structure AtLeast where
  minimum : Nat
  parts : List Cursor
  doc : Nat

namespace AtLeast

/-- The first document that any part stands on. -/
def lowest (parts : List Cursor) : Nat := parts.foldr (fun p m => min p.doc m) noMoreDocs

/-- How many parts stand on a document. -/
def countOn (doc : Nat) (parts : List Cursor) : Nat := parts.countP fun p => p.doc = doc

/-- Moves the parts on a document past it. -/
def stepOff (doc : Nat) (parts : List Cursor) : List Cursor :=
  parts.map fun p => if p.doc = doc then p.advance else p

/-- How many matches the parts have left. -/
def remaining (parts : List Cursor) : Nat := (parts.flatMap Cursor.entries).length

theorem exists_of_lowest_ne {parts : List Cursor} (h : lowest parts ≠ noMoreDocs) :
    ∃ p ∈ parts, p.doc = lowest parts := by
  induction parts with
  | nil => simp [lowest] at h
  | cons p rest ih =>
    by_cases hp : p.doc ≤ lowest rest
    · exact ⟨p, by simp, by simp [lowest] at hp ⊢; omega⟩
    · have hl : lowest (p :: rest) = lowest rest := by simp [lowest] at hp ⊢; omega
      obtain ⟨q, hq, hd⟩ := ih (hl ▸ h)
      exact ⟨q, by simp [hq], hl ▸ hd⟩

theorem remaining_stepOff_le (doc : Nat) (parts : List Cursor) :
    remaining (stepOff doc parts) ≤ remaining parts := by
  induction parts with
  | nil => simp [remaining, stepOff]
  | cons p rest ih =>
    simp only [remaining, stepOff, List.map_cons, List.flatMap_cons, List.length_append] at ih ⊢
    split
    · have : p.advance.entries.length ≤ p.entries.length := by simp [Cursor.advance]
      omega
    · omega

/-- Parts on a document have one match less once they are moved past it. -/
theorem remaining_stepOff_lt {doc : Nat} {parts : List Cursor} (hd : doc ≠ noMoreDocs)
    (h : ∃ p ∈ parts, p.doc = doc) : remaining (stepOff doc parts) < remaining parts := by
  induction parts with
  | nil => simp at h
  | cons p rest ih =>
    have hle := remaining_stepOff_le doc rest
    simp only [remaining, stepOff, List.map_cons, List.flatMap_cons, List.length_append] at ih hle ⊢
    by_cases hp : p.doc = doc
    · have hne : p.entries ≠ [] := Cursor.entries_ne_nil_of_doc_ne (hp ▸ hd)
      have hpos := List.length_pos_iff.2 hne
      have hadv : p.advance.entries.length = p.entries.length - 1 := by simp [Cursor.advance]
      rw [if_pos hp]
      omega
    · have hr : ∃ q ∈ rest, q.doc = doc := by
        obtain ⟨q, hq, hqd⟩ := h
        rcases List.mem_cons.1 hq with rfl | hq
        · exact absurd hqd hp
        · exact ⟨q, hq, hqd⟩
      have := ih hr
      rw [if_neg hp]
      omega

/-- Moves parts until at least `minimum` of them stand on the first document any stands on.
Returns them with that document. -/
def align (minimum : Nat) (parts : List Cursor) : List Cursor × Nat :=
  if _h : lowest parts = noMoreDocs then (parts, noMoreDocs)
  else if minimum ≤ countOn (lowest parts) parts then (parts, lowest parts)
  else align minimum (stepOff (lowest parts) parts)
termination_by remaining parts
decreasing_by exact remaining_stepOff_lt _h (exists_of_lowest_ne _h)

/-- Stands on the first document, from where the parts stand, that enough of them share. -/
def aligned (minimum : Nat) (parts : List Cursor) : AtLeast :=
  let (parts, doc) := align minimum parts
  ⟨minimum, parts, doc⟩

/-- Moves to the next document that enough parts share. -/
def advance (a : AtLeast) : AtLeast :=
  if a.doc = noMoreDocs then a else aligned a.minimum (stepOff a.doc a.parts)

/-- Moves to the first document at or after a given one that enough parts share. -/
def seek (a : AtLeast) (target : Nat) : AtLeast :=
  if target ≤ a.doc then a
  else aligned a.minimum (a.parts.map fun p => if p.doc < target then p.seek target else p)

/-- The sum of the scores of the parts that stand on the current document, in order. -/
def score (a : AtLeast) : Float32 :=
  ((a.parts.filter fun p => p.doc = a.doc).map Cursor.score).foldl (· + ·) (-0.0)

/-- The largest estimate of the parts. -/
def sizeHint (a : AtLeast) : Nat := (a.parts.map Cursor.sizeHint).foldl max 0

/-- The documents and scores of at most so many steps. -/
def walk (a : AtLeast) : Nat → List (Nat × Float32)
  | 0 => []
  | steps + 1 =>
    if a.doc = noMoreDocs then [] else (a.doc, a.score) :: a.advance.walk steps

/-- All documents from the current one on, as a cursor. Every step uses up a match of some part. -/
def toCursor (a : AtLeast) : Cursor :=
  ⟨a.walk (remaining a.parts), (a.parts.map (·.scoreAtEnd)).foldl (· + ·) (-0.0), a.sizeHint⟩

end AtLeast

end Catalogue
