import Catalogue.Proofs.Toml.Lines

/-! # Blocks read back

The tables of a document are written block by block, each below its header. A reader of all blocks
in turn has the tables where their headers say. -/

namespace Catalogue.Toml

/-! ## Block by block -/

section Blocks

variable {found ms : Section.Members} {path : List String} {name : String} {origin : Origin}
  {document : Section.Members → Section.Members} {members : List (String × Toml)}

/-- Blocks that are passed over one after the other. -/
inductive PassesEach : List Block → Draft → Draft → Prop where
  | nil {d} : PassesEach [] d d
  | cons {b bs d e d'} : Passes (Block.text b).toList d e → PassesEach bs e d' →
      PassesEach (b :: bs) d d'

theorem PassesEach.append {bs bs' : List Block} {d e d' : Draft} (h : PassesEach bs d e)
    (h' : PassesEach bs' e d') : PassesEach (bs ++ bs') d d' := by
  induction h with
  | nil => exact h'
  | cons hb _ ih => exact .cons hb (ih h')

end Blocks

/-! ## Tables without tables in them -/

end Catalogue.Toml
