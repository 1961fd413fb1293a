import Catalogue.Plan.OfQuery
import Catalogue.Score.Graph

/-!
# Why the catalogue cannot be searched or changed
-/

namespace Catalogue

/-- Why documents cannot be added now: another writer has the index, the memory for each thread is
too little or too much, or the writer fails for a reason of the index. -/
inductive WriterError where
  | busy
  | tooLittleMemory
  | tooMuchMemory
  | failed (reason : String)
  deriving DecidableEq, Repr

/-- The least memory of a writer thread, in bytes. -/
def leastThreadMemory : Nat := 15000000

/-- The memory from which a writer thread has too much, in bytes. -/
def mostThreadMemory : Nat := 4293967295

/-- The message for a writer that cannot be had. -/
def WriterError.message : WriterError → String
  | busy =>
    "Failed to acquire Lockfile: LockBusy. Some(\"Failed to acquire index lock. If you are using " ++
      "a regular directory, this means there is already an `IndexWriter` working on this " ++
      "`Directory`, in this process or in a different process.\")"
  | tooLittleMemory =>
    "An invalid argument was passed: 'The memory arena in bytes per thread needs to be at least " ++
      Decimal.natural leastThreadMemory ++ ".'"
  | tooMuchMemory =>
    "An invalid argument was passed: 'The memory arena in bytes per thread cannot exceed " ++
      Decimal.natural mostThreadMemory ++ "'"
  | failed reason => reason

/-- Why the index failed. -/
inductive IndexError where
  | write (e : WriterError)
  | commit (reason : String)
  | search (reason : String)
  | io (reason : String)
  | unreadable (path : String)
  | invalidLanguage (name : String)
  deriving DecidableEq

/-- The message for a failure of the index. -/
def IndexError.message : IndexError → String
  | write e => s!"failed to write to index: {e.message}"
  | commit reason => s!"failed to commit index: {reason}"
  | search reason => s!"search failed: {reason}"
  | io reason => s!"I/O error: {reason}"
  | unreadable path =>
    s!"failed to open index at {path}: Data corrupted: 'Data corruption (in file " ++
      "\u0060\"meta.json\"\u0060): Meta file does not contain valid utf8 file..'"
  | invalidLanguage name => s!"unsupported stemmer language: {name}"

/-- Why a request to the catalogue failed. -/
inductive SearchError where
  | notCommitted
  | noPendingWriter
  | plan (e : PlanError)
  | graph (e : GraphError)
  | scoring (e : ScoreError)
  | index (e : IndexError)
  deriving DecidableEq

/-- The message for a failed request. -/
def SearchError.message : SearchError → String
  | notCommitted => "no committed documents to search; add documents and commit first"
  | noPendingWriter => "nothing to commit; add documents first"
  | plan e => e.message
  | graph e => e.message
  | scoring e => s!"scoring failed: {e.message}"
  | index e => e.message

end Catalogue
