import Catalogue.Proofs.Search.Explained

/-! # What searches see of committed books

Books are committed as documents of segments, in whatever arrangement. The matches of a query are
the books that it means, each as it was added, as often as it was added, and nothing else. -/

namespace Catalogue

/-- What a service is opened with: a library of stemmers, its settings with the language they name,
the graph and the entry point of its scores, and whether another writer has the index. -/
structure Configuration where
  stemmers : Analysis.Stemmers
  settings : ServiceSettings
  language : Analysis.Language
  graph : Graph
  score : String
  busy : Bool

namespace Configuration

variable (c : Configuration)

def stemmer : Analysis.Stemmer := c.stemmers.of c.language

def analyzer : Analyzer := ⟨some c.stemmer⟩

def document (b : Book) : Document := .make c.stemmer [b.title] [b.isbn]

def service {ε : Type} (pending : Option (List Document)) (snapshot : Option (List Segment)) :
    Service ε :=
  ⟨c.stemmer, c.graph, c.score, c.settings.heapSize, [], pending, snapshot⟩

/-- A document keeps the title and the isbn of its book. -/
theorem book_document (b : Book) : Service.book (c.document b) = b := rfl

end Configuration

/-- What a search sees of books: the documents that its query means in some arrangement of the
books, which are the books that the query means. -/
structure Sees (c : Configuration) (books : List Book) (query : Query) (found : List Found) :
    Prop where
  arranged : ∃ segments : List Segment, segments.flatten.Perm (books.map c.document) ∧
    found = query.foundFrom c.analyzer 0 segments
  books : (found.map fun m => Service.book m.document).Perm
    (books.filter fun b => query.holds c.analyzer (c.document b))

/-- What a search answers, given the books that were committed, if anything was. -/
inductive Searched (c : Configuration) (query : Query) (limit : Nat) :
    Option (List Book) → Except SearchError (List Hit) → Prop where
  | notCommitted : Searched c query limit none (.error .notCommitted)
  | unplanned {books e} : Plan.ofQuery c.analyzer query = .error e →
      Searched c query limit (some books) (.error (.plan e))
  | nothing {books plan} : Plan.ofQuery c.analyzer query = .ok plan → limit = 0 →
      Searched c query limit (some books) (.ok [])
  | answered {books plan results r} : Plan.ofQuery c.analyzer query = .ok plan → limit ≠ 0 →
      Sees c books query (results.map Prod.fst) →
      (∀ p ∈ results, c.graph.scoreAt? p.1.place c.score = some p.2) → IsAnswer limit results r →
      Searched c query limit (some books) r

/-! ## Matches are books -/

section

variable {a : Analyzer} {q : Query}

theorem foundIn_documents (number : Nat) (segment : Segment) :
    (q.foundIn a number segment).map Found.document = segment.filter (q.holds a) := by
  have hfst : (segment.zipIdx.map Prod.fst).filter (q.holds a) =
      (segment.zipIdx.filter fun p => q.holds a p.1).map Prod.fst := List.filter_map
  rw [Query.foundIn, List.map_map, ← List.zipIdx_map_fst 0 segment, hfst, List.zipIdx_map_fst]
  rfl

theorem foundFrom_documents (first : Nat) (segments : List Segment) :
    (q.foundFrom a first segments).map Found.document = segments.flatten.filter (q.holds a) := by
  induction segments generalizing first with
  | nil => rfl
  | cons segment rest ih =>
      rw [Query.foundFrom, List.map_append, foundIn_documents, ih, List.flatten_cons,
        List.filter_append]

end

variable {c : Configuration}

theorem sees_of_perm {segments : List Segment} {books : List Book}
    (h : segments.flatten.Perm (books.map c.document)) (query : Query) :
    Sees c books query (query.foundFrom c.analyzer 0 segments) := by
  refine ⟨⟨segments, h, rfl⟩, ?_⟩
  have hmatched : ((query.foundFrom c.analyzer 0 segments).map fun m => Service.book m.document) =
      (segments.flatten.filter (query.holds c.analyzer)).map Service.book := by
    rw [← foundFrom_documents, List.map_map]
    rfl
  have hmeant : ((books.map c.document).filter (query.holds c.analyzer)).map Service.book =
      books.filter fun b => query.holds c.analyzer (c.document b) := by
    rw [List.filter_map, List.map_map]
    exact List.map_id _
  rw [hmatched, ← hmeant]
  exact (h.filter _).map _

/-! ## Searching committed books -/

section

variable {ε : Type} {pending : Option (List Document)} {segments : List Segment} {books : List Book}

theorem size_le_of_flatten (h : segments.flatten.length ≤ noMoreDocs) :
    ∀ segment ∈ segments, segment.length ≤ noMoreDocs :=
  fun _ hsegment => Nat.le_trans (List.sublist_flatten_of_mem hsegment).length_le h

/-- A search of committed books answers for these books, whatever is pending. -/
theorem Service.Checked.searched
    (hs : (c.service pending (some segments) : Service ε).Checked)
    (hbooks : segments.flatten.Perm (books.map c.document))
    (hsize : segments.flatten.length ≤ noMoreDocs) (query : Query) (limit : Nat) :
    Searched c query limit (some books)
      ((c.service pending (some segments) : Service ε).search query limit).1 := by
  have hsizes := size_le_of_flatten hsize
  have hsnapshot : (c.service pending (some segments) : Service ε).snapshot = some segments := rfl
  cases hplan : Plan.ofQuery c.analyzer query with
  | error e =>
      rw [search, collect_unplanned _ hsnapshot hplan]
      exact .unplanned hplan
  | ok plan =>
      by_cases hlimit : limit = 0
      · rw [search, hlimit, collect_nothing _ hsnapshot hplan]
        exact .nothing hplan rfl
      · obtain ⟨score, start, hscore, hstart, hruns⟩ := hs.collect_eq hsnapshot hplan hlimit
        obtain ⟨results, hmatched, hevaluated, hanswer⟩ :=
          runPlan_isAnswer hplan hsizes hscore hstart limit
        rw [search, hruns]
        exact .answered hplan hlimit (hmatched ▸ sees_of_perm hbooks query) hevaluated hanswer

end

end Catalogue
