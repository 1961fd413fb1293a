import Catalogue.Settings.Basic

/-!
# Warnings

Settings may be valid and still not do what they were meant to: documents are lost without a place
for the index, and a binding that the score does not read has no effect.
-/

namespace Catalogue

/-- What may be wrong with settings. -/
inductive Warning where
  | inMemoryIndex
  | unknownScore (name : String)
  | unusedBinding (name : String)
  deriving DecidableEq, Repr

/-- The message of a warning. -/
def Warning.message : Warning → String
  | inMemoryIndex => "no index path configured; documents are kept in memory only"
  | unknownScore name => s!"score entry point '{name}' is not a scoring binding"
  | unusedBinding name => s!"scoring binding '{name}' does not contribute to the score"

namespace ScoringSettings

/-- The inputs of a name. Of several bindings the last counts, and leaves come first. -/
def inputs (s : ScoringSettings) (name : String) : List String :=
  ((s.derived.reverse.find? fun b => b.name = name).map DerivedBinding.inputs).getD []

/-- Every name that is bound or read. -/
def mentioned (s : ScoringSettings) : List String :=
  s.names ++ s.derived.flatMap DerivedBinding.inputs

/-- The names that pending ones lead to. `unseen` are the names not met yet, and each name is
followed once. -/
def follow (s : ScoringSettings) (unseen reached pending : List String) : List String :=
  match pending with
  | [] => reached
  | name :: rest =>
    if name ∈ unseen then
      s.follow (unseen.erase name) (name :: reached) (s.inputs name ++ rest)
    else s.follow unseen reached rest
termination_by (unseen.length, pending.length)
decreasing_by
  · rename_i h
    apply Prod.Lex.left
    rw [List.length_erase_of_mem h]
    have := List.length_pos_of_mem h
    omega
  · apply Prod.Lex.right
    simp

/-- The names that a name leads to, itself among them. -/
def reachable (s : ScoringSettings) (entry : String) : List String :=
  s.follow (entry :: s.mentioned).eraseDups [] [entry]

end ScoringSettings

/-- What may be wrong with the bindings of settings. -/
def Settings.scoringWarnings (s : Settings) : List Warning :=
  let names := s.scoring.names
  if s.search.score ∈ names then
    let reached := s.scoring.reachable s.search.score
    (names.filter fun name => name ∉ reached).map .unusedBinding
  else [.unknownScore s.search.score]

/-- What may be wrong with settings. -/
def Settings.warnings (s : Settings) : List Warning :=
  (if s.index.path.isNone then [.inMemoryIndex] else []) ++ s.scoringWarnings

end Catalogue
