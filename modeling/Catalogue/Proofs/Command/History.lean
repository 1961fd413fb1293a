import Catalogue.Command.Run
import Catalogue.Proofs.Command.Add
import Catalogue.Proofs.Command.Check

/-! # A history of runs

One run after the other adds books or searches, while nothing else touches the index. What is visible
in the end are the books of the runs that succeeded. The induction is on the history, and goes by what
each run leaves visible. -/

namespace Catalogue.Command

/-- A run of a command: the request, what it runs in, and what the index makes of its books. -/
structure Run where
  request : Request
  setting : Setting
  outcome : WriteOutcome

def Run.result (x : Run) : Outcome := x.request.runAs x.outcome x.setting

def booksIn (s : Setting) (file : String) : List Book :=
  match s.readArgument file with
  | .error _ => []
  | .ok text => (booksOfText text).toOption.getD []

/-- A run fails although the index keeps its books, which it then cannot merge or load. -/
def FailsLate (settings : Settings) (s : Setting) (file : String) (outcome : WriteOutcome)
    (o : Outcome) : Prop :=
  o.succeeds = false ∧ outcome.Keeps settings.index.heapSize (booksIn s file).length ∧
    ¬outcome.Publishes

instance (settings : Settings) (s : Setting) (file : String) (outcome : WriteOutcome)
    (o : Outcome) : Decidable (FailsLate settings s file outcome o) :=
  inferInstanceAs (Decidable (_ ∧ _ ∧ _))

/-- The books of a run that adds them and succeeds, or fails late. -/
def Run.added (settings : Settings) (x : Run) : List Book :=
  match x.request with
  | .add file =>
    if x.result.succeeds = true ∨ FailsLate settings x.setting file x.outcome x.result then
      booksIn x.setting file
    else []
  | _ => []

variable {stemmers : Analysis.Stemmers} {settings : Settings} {dir : Path}
  {language : Analysis.Language} {g : Graph} {t u : Tree} {docs : List Document} {x : Run}

/-! ## What is visible stays visible -/

/-- The ways that a run can go that adds books, where so many documents are visible, with the books
that it adds. -/
inductive Went (settings : Settings) (visible : Nat) (s : Setting) (file : String)
    (outcome : WriteOutcome) : List Book → Outcome → Prop where
  | unread {e : FileError} : s.readArgument file = .error e →
      Went settings visible s file outcome []
        ⟨false, [], [s!"error: failed to read {file}: {e.message}"], s.tree⟩
  | malformed {text e} : s.readArgument file = .ok text → FirstMalformed (documentLines text) e →
      Went settings visible s file outcome []
        ⟨false, [], [s!"error: {file}: {e.message}"], s.tree⟩
  | nothing {text} : s.readArgument file = .ok text → HoldBooks (documentLines text) [] →
      Went settings visible s file outcome [] ⟨true, ["No documents to add."], [], s.tree⟩
  | added {text books tree} : s.readArgument file = .ok text →
      HoldBooks (documentLines text) books → books ≠ [] →
      outcome.Keeps settings.index.heapSize books.length → outcome.Publishes →
      Went settings visible s file outcome books
        ⟨true, [addedLine books.length (visible + books.length)], [], tree⟩
  | unpublished {text books error tree} : s.readArgument file = .ok text →
      HoldBooks (documentLines text) books → books ≠ [] →
      outcome.Keeps settings.index.heapSize books.length → ¬outcome.Publishes →
      Went settings visible s file outcome books ⟨false, [], [error], tree⟩
  | refused {text books error tree} : s.readArgument file = .ok text →
      HoldBooks (documentLines text) books → books ≠ [] →
      ¬outcome.Keeps settings.index.heapSize books.length →
      Went settings visible s file outcome [] ⟨false, [], [error], tree⟩

section

variable {visible : Nat} {s : Setting} {file : String} {outcome : WriteOutcome} {added : List Book}
  {o : Outcome}

theorem Went.reports (h : Went settings visible s file outcome added o) {text : String}
    (hread : s.readArgument file = .ok text) (hlines : documentLines text ≠ [])
    (hsucceeds : o.succeeds = true) :
    o.lines = [addedLine (documentLines text).length (visible + (documentLines text).length)] := by
  cases h with
  | unread => cases hsucceeds
  | malformed => cases hsucceeds
  | nothing hother hhold =>
      cases hread.symm.trans hother
      cases hlines (List.forall₂_nil_right_iff.mp hhold)
  | added hother hhold =>
      cases hread.symm.trans hother
      rw [List.Forall₂.length_eq hhold]
  | unpublished => cases hsucceeds
  | refused => cases hsucceeds

end

end Catalogue.Command
