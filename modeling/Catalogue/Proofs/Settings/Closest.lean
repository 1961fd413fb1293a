import Catalogue.Proofs.Outcome
import Catalogue.Settings.Merge

/-! # The closest file decides

Merging lays each file over those farther away, so that a setting can be overwritten many times.
What is left of it is what the closest file says that says anything. The path of the index is seen
from that same file, but on the way the paths of all files are looked up. -/

namespace Catalogue

variable {home : Option Path} {f : PlacedFile} {files rest : List PlacedFile}

namespace PlacedFile

def indexPath (f : PlacedFile) : Option String := f.file.index.bind IndexSection.path

def language (f : PlacedFile) : Option String := f.file.index.bind IndexSection.language

def heapSize (f : PlacedFile) : Option Nat := f.file.index.bind IndexSection.heapSize

def defaultLimit (f : PlacedFile) : Option Nat := f.file.search.bind SearchSection.defaultLimit

def score (f : PlacedFile) : Option String := f.file.search.bind SearchSection.score

def scoring (f : PlacedFile) : Option ScoringSettings := f.file.scoring

/-- Where a file puts the index, if it says so and if that can be known. -/
def place (home : Option Path) (f : PlacedFile) : Option (Option Path) :=
  f.indexPath.map (Path.resolve? home f.dir)

/-- A file does not say where the index is, or it can be known. -/
def Resolves (home : Option Path) (f : PlacedFile) : Prop := f.place home ≠ some none

instance : DecidablePred (PlacedFile.Resolves home) := fun f =>
  inferInstanceAs (Decidable (f.place home ≠ some none))

end PlacedFile

/-! ## One file over the others -/

theorem IndexSettings.overlay_of_resolves (farther : IndexSettings) (h : f.Resolves home) :
    farther.overlay home f =
      .ok ⟨(f.place home).getD farther.path, f.language.getD farther.language,
        f.heapSize.getD farther.heapSize⟩ := by
  simp only [PlacedFile.Resolves, PlacedFile.place, PlacedFile.indexPath, PlacedFile.language,
    PlacedFile.heapSize, overlay] at h ⊢
  cases hindex : f.file.index with
  | none => rfl
  | some said =>
      cases htext : said.path with
      | none =>
          simp [htext]
          rfl
      | some text =>
          obtain ⟨p, hp⟩ : ∃ p, Path.resolve? home f.dir text = some p := by
            simpa [hindex, htext, Option.ne_none_iff_exists'] using h
          simp [htext, PlacedFile.resolve, hp]

theorem IndexSettings.overlay_of_not_resolves (farther : IndexSettings) (h : ¬ f.Resolves home) :
    farther.overlay home f = .error .noHome := by
  simp only [PlacedFile.Resolves, PlacedFile.place, PlacedFile.indexPath, overlay] at h ⊢
  cases hindex : f.file.index with
  | none => simp [hindex] at h
  | some said =>
      cases htext : said.path with
      | none => simp [hindex, htext] at h
      | some text =>
          have hp : Path.resolve? home f.dir text = none := by
            simpa [hindex, htext] using h
          simp [htext, PlacedFile.resolve, hp]

theorem SearchSettings.overlay_eq (farther : SearchSettings) :
    farther.overlay f =
      ⟨f.defaultLimit.getD farther.defaultLimit, f.score.getD farther.score⟩ := by
  unfold overlay PlacedFile.defaultLimit PlacedFile.score
  cases f.file.search <;> rfl

/-! ## All files together -/

theorem getD_findSome?_cons {α : Type} (said : PlacedFile → Option α) (default : α) :
    (said f).getD ((rest.findSome? said).getD default) =
      ((f :: rest).findSome? said).getD default := by
  rw [List.findSome?_cons]
  cases said f <;> rfl

namespace Settings

/-- The settings that the closest files say, wherever their paths lead. -/
def closest (home : Option Path) (files : List PlacedFile) : Settings where
  index :=
    ⟨(files.findSome? (PlacedFile.place home)).getD IndexSettings.default.path,
      (files.findSome? PlacedFile.language).getD IndexSettings.default.language,
      (files.findSome? PlacedFile.heapSize).getD IndexSettings.default.heapSize⟩
  search :=
    ⟨(files.findSome? PlacedFile.defaultLimit).getD SearchSettings.default.defaultLimit,
      (files.findSome? PlacedFile.score).getD SearchSettings.default.score⟩
  scoring := (files.findSome? PlacedFile.scoring).getD ScoringSettings.default
  root := files.head?.map PlacedFile.dir

theorem mergeIndex_eq :
    mergeIndex home files =
      if ∀ f ∈ files, f.Resolves home then .ok (closest home files).index
      else .error .noHome := by
  induction files with
  | nil => simp [mergeIndex, closest]; rfl
  | cons f rest ih =>
      have hcons : mergeIndex home (f :: rest) =
          mergeIndex home rest >>= IndexSettings.overlay home f := List.foldrM_cons
      rw [hcons, ih]
      by_cases hrest : ∀ g ∈ rest, g.Resolves home
      · have hall : (∀ g ∈ f :: rest, g.Resolves home) ↔ f.Resolves home :=
          ⟨fun h => h f List.mem_cons_self, fun h => List.forall_mem_cons.mpr ⟨h, hrest⟩⟩
        rw [if_pos hrest, ok_bind]
        by_cases hf : f.Resolves home
        · rw [if_pos (hall.mpr hf), IndexSettings.overlay_of_resolves _ hf]
          simp only [closest, getD_findSome?_cons]
        · rw [if_neg (mt hall.mp hf), IndexSettings.overlay_of_not_resolves _ hf]
      · rw [if_neg hrest, if_neg fun h => hrest (List.forall_mem_cons.mp h).2]
        rfl

theorem mergeSearch_eq (home : Option Path) : mergeSearch files = (closest home files).search := by
  induction files with
  | nil => rfl
  | cons f rest ih =>
      have hcons : mergeSearch (f :: rest) = (mergeSearch rest).overlay f := List.foldr_cons ..
      rw [hcons, ih, SearchSettings.overlay_eq]
      simp only [closest, getD_findSome?_cons]

/-- Merging gives what the closest files say, unless it is not known where the path of some file
leads. -/
theorem merge_eq :
    merge home files =
      if ∀ f ∈ files, f.Resolves home then .ok (closest home files) else .error .noHome := by
  cases files with
  | nil => simp [merge]; rfl
  | cons f rest =>
      rw [merge, mergeIndex_eq, mergeSearch_eq home]
      split <;> rfl

theorem merge_eq_ok_iff {s : Settings} :
    merge home files = .ok s ↔ (∀ f ∈ files, f.Resolves home) ∧ s = closest home files := by
  rw [merge_eq]
  by_cases h : ∀ f ∈ files, f.Resolves home
  · rw [if_pos h, Except.ok.injEq, eq_comm, and_iff_right h]
  · rw [if_neg h]
    exact ⟨nofun, fun hs => absurd hs.1 h⟩

theorem merge_eq_error_iff {e : SettingsError} :
    merge home files = .error e ↔ (∃ f ∈ files, ¬ f.Resolves home) ∧ e = .noHome := by
  rw [merge_eq]
  by_cases h : ∀ f ∈ files, f.Resolves home
  · rw [if_pos h]
    exact ⟨nofun, fun ⟨⟨f, hf, hnot⟩, _⟩ => absurd (h f hf) hnot⟩
  · have hsome : ∃ f ∈ files, ¬ f.Resolves home := by
      simpa using h
    rw [if_neg h, Except.error.injEq, eq_comm, and_iff_right hsome]

end Settings

/-! ## What each setting comes from -/

/-- What files make of a setting, closest first: what the first file says that says anything, or
else the default. -/
inductive Decided {α : Type} (said : PlacedFile → Option α) (default : α) :
    List PlacedFile → α → Prop where
  | byFile {before closest farther v} : (∀ g ∈ before, said g = none) → said closest = some v →
      Decided said default (before ++ closest :: farther) v
  | byDefault {silent} : (∀ g ∈ silent, said g = none) → Decided said default silent default

theorem decided_findSome? {α : Type} (said : PlacedFile → Option α) (default : α)
    (files : List PlacedFile) :
    Decided said default files ((files.findSome? said).getD default) := by
  cases h : files.findSome? said with
  | none => exact .byDefault (List.findSome?_eq_none_iff.mp h)
  | some v =>
      obtain ⟨before, f, after, rfl, hf, hbefore⟩ := List.findSome?_eq_some_iff.mp h
      exact .byFile hbefore hf

namespace Settings

/-- Where each setting comes from. The path of the index is that of the file that names it, seen
from the directory of this file, and every file's path leads somewhere. -/
structure ClosestDecides (home : Option Path) (files : List PlacedFile) (s : Settings) : Prop where
  path : Decided (PlacedFile.place home) none files s.index.path
  resolves : ∀ f ∈ files, ∀ text, f.indexPath = some text →
    ∃ p, Path.resolve? home f.dir text = some p
  language : Decided PlacedFile.language "english" files s.index.language
  heapSize : Decided PlacedFile.heapSize 50000000 files s.index.heapSize
  defaultLimit : Decided PlacedFile.defaultLimit 10 files s.search.defaultLimit
  score : Decided PlacedFile.score "weird_score" files s.search.score
  scoring : Decided PlacedFile.scoring ScoringSettings.default files s.scoring
  root : s.root = files.head?.map PlacedFile.dir

theorem merge_closestDecides {s : Settings} (h : merge home files = .ok s) :
    ClosestDecides home files s := by
  obtain ⟨hresolves, rfl⟩ := merge_eq_ok_iff.mp h
  refine ⟨decided_findSome? .., ?_, decided_findSome? .., decided_findSome? ..,
    decided_findSome? .., decided_findSome? .., decided_findSome? .., rfl⟩
  intro f hf text htext
  have hplace := hresolves f hf
  rw [PlacedFile.Resolves, PlacedFile.place, htext] at hplace
  exact Option.ne_none_iff_exists'.mp fun hnone => hplace (congrArg some hnone)

/-- A project's file that names a language, and the home directory's, which names another one and
the place of the index. -/
def projectAndHome : List PlacedFile :=
  [⟨⟨"/work/.quarry.toml"⟩, ⟨none, some ⟨none, some "german", none⟩, none, some ⟨[], []⟩⟩⟩,
    ⟨⟨"/home/reader/.quarry.toml"⟩,
      ⟨none, some ⟨some "books", some "french", none⟩, some ⟨some 3, none⟩, none⟩⟩]

theorem closestDecides_projectAndHome :
    ∃ s, merge none projectAndHome = .ok s ∧ ClosestDecides none projectAndHome s ∧
      s.index = ⟨some ⟨"/home/reader/books"⟩, "german", 50000000⟩ ∧ s.root = some ⟨"/work"⟩ := by
  obtain ⟨s, hs, hindex, hroot⟩ : ∃ s, merge none projectAndHome = .ok s ∧
      s.index = ⟨some ⟨"/home/reader/books"⟩, "german", 50000000⟩ ∧ s.root = some ⟨"/work"⟩ :=
    ⟨_, rfl, by decide, by decide⟩
  exact ⟨s, hs, merge_closestDecides hs, hindex, hroot⟩

end Settings

end Catalogue
