import Catalogue.Field

/-!
# Indexed documents

A document keeps the texts of its fields, of which there may be any number, and the tokens it is
found by.
-/

namespace Catalogue

/-- Tokens of more bytes than this are not indexed. -/
def longestToken : Nat := 65530

/-- A document of the index. -/
structure Document where
  values : Field → List String
  tokens : Field → List String

/-- The texts of a field among those of both fields. -/
def fieldValues (title isbn : List String) : Field → List String
  | .title => title
  | .isbn => isbn

/-- The tokens of a text in a field. -/
def indexTokens (stem : Analysis.Stemmer) (f : Field) (text : String) : List String :=
  (((f.tokenizer?.bind fun t => (Analyzer.mk (some stem)).tokens? t text)).getD []).filter
    fun token => token.utf8ByteSize ≤ longestToken

/-- Indexes a document, whose titles are stemmed. -/
def Document.make (stem : Analysis.Stemmer) (title isbn : List String) : Document where
  values := fieldValues title isbn
  tokens f := (fieldValues title isbn f).flatMap (indexTokens stem f)

/-- A part of the index that is written once. Documents are numbered from zero. -/
abbrev Segment := List Document

end Catalogue
