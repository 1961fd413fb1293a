import Catalogue.Proofs.Command.Lines
import Catalogue.Proofs.Search.Opening
import Catalogue.Proofs.Search.Store

/-! # One run that adds books

All books of a run are added or none. What was added is visible once the run succeeds, and whatever
ends a run before that leaves what is visible as it was. -/

namespace Catalogue.Command

open Service

/-- What the index keeps is merged and loaded. -/
def WriteOutcome.Publishes (outcome : WriteOutcome) : Prop :=
  outcome.committed = .kept (.ok ()) (.ok ())

/-- A writer opens, takes so many books, and they are kept. -/
structure WriteOutcome.Keeps (outcome : WriteOutcome) (heapSize count : Nat) : Prop where
  writer : checkWriter Index.empty heapSize = .ok ()
  opened : outcome.opened = .ok ()
  taken : ∀ i < count, outcome.taken i = .ok ()
  committed : ∃ merged loaded, outcome.committed = .kept merged loaded

theorem WriteOutcome.keeps_iff {outcome : WriteOutcome} {heapSize count : Nat} :
    outcome.Keeps heapSize count ↔
      checkWriter Index.empty heapSize = .ok () ∧ outcome.opened = .ok () ∧
        (∀ i < count, outcome.taken i = .ok ()) ∧
        ∃ merged loaded, outcome.committed = .kept merged loaded :=
  ⟨fun h => ⟨h.writer, h.opened, h.taken, h.committed⟩,
    fun ⟨writer, opened, taken, committed⟩ => ⟨writer, opened, taken, committed⟩⟩

deriving instance DecidableEq for CommitOutcome

instance (outcome : CommitOutcome) : Decidable (∃ merged loaded, outcome = .kept merged loaded) :=
  match outcome with
  | .failed _ => .isFalse (by simp)
  | .kept merged loaded => .isTrue ⟨merged, loaded, rfl⟩

instance (outcome : WriteOutcome) (heapSize count : Nat) :
    Decidable (outcome.Keeps heapSize count) :=
  decidable_of_iff _ WriteOutcome.keeps_iff.symm

instance (outcome : WriteOutcome) : Decidable outcome.Publishes :=
  inferInstanceAs (Decidable (outcome.committed = .kept (.ok ()) (.ok ())))

variable {stemmers : Analysis.Stemmers} {stem : Analysis.Stemmer} {settings : Settings} {dir : Path}
  {language : Analysis.Language} {g : Graph} {t u : Tree} {index : Index} {docs : List Document}
  {outcome : WriteOutcome} {books : List Book}

def fresh (settings : Settings) (stem : Analysis.Stemmer) (g : Graph) (index : Index) :
    Service Empty :=
  ⟨stem, g, settings.search.score, settings.index.heapSize, [], none, index.snapshot⟩

def writing (service : Service Empty) (docs : List Document) : Service Empty :=
  { service with pending := some docs }

def addedLine (added total : Nat) : String :=
  s!"Added {Decimal.natural added} documents ({Decimal.natural total} in index)"

end Catalogue.Command
