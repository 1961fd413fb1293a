import Catalogue.Proofs.Toml.Blocks
import Catalogue.Settings.File
import Catalogue.Settings.Toml

/-! # Settings as a settings file

Settings are written as a file that says all of them, and read back from it. Bindings are written
below headers of their own, but an empty list of them has none and stands in the section. -/

namespace Catalogue

open Toml

/-! ## Members -/

namespace ScoringSettings

def leafTables (s : ScoringSettings) : List (List (String × Toml)) :=
  s.leaf.map LeafBinding.members

def derivedTables (s : ScoringSettings) : List (List (String × Toml)) :=
  s.derived.map DerivedBinding.members

/-- Whether members hold the lists of a scoring section. -/
def HoldsLists (s : ScoringSettings) (ms : Section.Members) : Prop :=
  (ms.lookup "leaf").map Section.toToml = some (.array (s.leafTables.map .table)) ∧
    (ms.lookup "derived").map Section.toToml = some (.array (s.derivedTables.map .table))

end ScoringSettings

/-! ## The document -/

namespace Settings

def blocks (s : Settings) : List Block :=
  ⟨["index"], false, s.index.members⟩ :: ⟨["search"], false, s.search.members⟩ ::
    blocksAt ["scoring"] (.table s.scoring.members)

end Settings

/-! ## Reading sections -/

theorem FieldKind.ofName?_name (k : FieldKind) : FieldKind.ofName? k.name = some k := by
  cases k <;> rfl

theorem LeafBinding.ofToml?_members (b : LeafBinding) :
    LeafBinding.ofToml? (.table b.members) = some b := by
  have hfields : (Toml.table b.members).fields? ["name", "field", "kind"] =
      some [some (.string b.name), some (.string b.field), some (.string b.kind.name)] := rfl
  have hkind : FieldKind.ofToml? (.string b.kind.name) = some b.kind := b.kind.ofName?_name
  simp [ofToml?, hfields, string?, hkind]

theorem mapM_map_eq_some {α β : Type} {f : α → β} {read : β → Option α}
    (h : ∀ a, read (f a) = some a) (as : List α) : (as.map f).mapM read = some as := by
  induction as with
  | nil => rfl
  | cons a as ih => simp [h, ih]

theorem DerivedBinding.ofToml?_members (b : DerivedBinding) :
    DerivedBinding.ofToml? (.table b.members) = some b := by
  have hfields : (Toml.table b.members).fields? ["name", "function", "inputs"] =
      some [some (.string b.name), some (.string b.function),
        some (.array (b.inputs.map .string))] := rfl
  have hstring : ∀ s, string? (.string s) = some s := fun _ => rfl
  have hinputs : (Toml.array (b.inputs.map .string)).list? string? = some b.inputs :=
    mapM_map_eq_some hstring b.inputs
  simp [ofToml?, hfields, string?, hinputs]

theorem count?_natural {n : Nat} (h : n < UInt64.size) : (Toml.integer n).count? = some n :=
  if_pos h

theorem IndexSection.ofToml?_members {s : IndexSettings} (h : s.heapSize < UInt64.size) :
    IndexSection.ofToml? (.table s.members) =
      some ⟨s.path.map Path.text, some s.language, some s.heapSize⟩ := by
  have hfields : (Toml.table s.members).fields? ["path", "language", "heap_size"] =
      some [s.path.map fun path => .string path.text, some (.string s.language),
        some (.integer s.heapSize)] := by
    cases hpath : s.path <;> simp [fields?, IndexSettings.members, hpath, List.lookup_cons]
  cases hpath : s.path <;>
    simp [ofToml?, hfields, hpath, optional?, string?, count?_natural h]

theorem SearchSection.ofToml?_members {s : SearchSettings} (h : s.defaultLimit < UInt64.size) :
    SearchSection.ofToml? (.table s.members) = some ⟨some s.defaultLimit, some s.score⟩ := by
  have hfields : (Toml.table s.members).fields? ["default_limit", "score"] =
      some [some (.integer s.defaultLimit), some (.string s.score)] := rfl
  simp [ofToml?, hfields, optional?, string?, count?_natural h]

theorem ScoringSettings.HoldsLists.ofToml? {s : ScoringSettings} {ms : Section.Members}
    (h : s.HoldsLists ms) :
    ScoringSettings.ofToml? (.table (Section.membersToToml ms)) = some s := by
  have hfields : (Toml.table (Section.membersToToml ms)).fields? ["leaf", "derived"] =
      some [some (.array (s.leafTables.map .table)),
        some (.array (s.derivedTables.map .table))] := by
    simp [fields?, Section.lookup_membersToToml, h.1, h.2]
  have hleaf : (Toml.array (s.leafTables.map .table)).list? LeafBinding.ofToml? = some s.leaf := by
    rw [leafTables, List.map_map]
    exact mapM_map_eq_some LeafBinding.ofToml?_members s.leaf
  have hderived : (Toml.array (s.derivedTables.map .table)).list? DerivedBinding.ofToml? =
      some s.derived := by
    rw [derivedTables, List.map_map]
    exact mapM_map_eq_some DerivedBinding.ofToml?_members s.derived
  simp [ScoringSettings.ofToml?, hfields, optional?, hleaf, hderived]

end Catalogue
