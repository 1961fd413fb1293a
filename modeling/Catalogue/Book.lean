import Catalogue.Json.Reading
import Catalogue.Json.Text
import Catalogue.Query.Json

/-!
# Books and hits
-/

namespace Catalogue

open Json

/-- A book in the catalogue. -/
structure Book where
  title : String
  isbn : String
  deriving DecidableEq, Repr

/-- A book found by a search, with its computed score. -/
structure Hit where
  book : Book
  score : Float32
  deriving DecidableEq

/-- A book as JSON. -/
def Book.toJson (b : Book) : Json :=
  .object [("title", .string b.title), ("isbn", .string b.isbn)]

/-- A hit as JSON. -/
def Hit.toJson (h : Hit) : Json :=
  .object [("doc", h.book.toJson), ("score", ofSingle h.score)]

/-- Reads a book. -/
def Book.read : Reader Book := fun form scan => do
  let shape := pairShape "struct Doc" "title" "isbn" readString readString
  let (title, isbn) ← requirePair "title" "isbn" (← shape.read form scan)
  return ⟨title, isbn⟩

/-- Reads a hit. -/
def Hit.read : Reader Hit := fun form scan => do
  let shape := pairShape "struct Hit" "doc" "score" Book.read readSingle
  let (book, score) ← requirePair "doc" "score" (← shape.read form scan)
  return ⟨book, score⟩

end Catalogue
