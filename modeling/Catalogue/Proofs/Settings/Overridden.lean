import Catalogue.Proofs.Settings.Closest

/-! # Overridden settings

Two lists of files that differ only in what closer files override are compared. Where both merge,
they merge to the same settings. But a path that is overridden is looked up all the same, so that
without a home directory it can keep files from merging. -/

namespace Catalogue

variable {home : Option Path} {files others : List PlacedFile}

/-- Two lists of files, of one length, say the same of a setting up to the first file that says
anything of it. -/
inductive AgreeUpToFirst {α : Type} (said : PlacedFile → Option α) :
    List PlacedFile → List PlacedFile → Prop where
  | nil : AgreeUpToFirst said [] []
  | first {f g fs gs v} : said f = some v → said g = some v → fs.length = gs.length →
      AgreeUpToFirst said (f :: fs) (g :: gs)
  | later {f g fs gs} : said f = none → said g = none → AgreeUpToFirst said fs gs →
      AgreeUpToFirst said (f :: fs) (g :: gs)

theorem AgreeUpToFirst.findSome?_eq {α : Type} {said : PlacedFile → Option α}
    (h : AgreeUpToFirst said files others) : files.findSome? said = others.findSome? said := by
  induction h with
  | nil => rfl
  | first hf hg _ => rw [List.findSome?_cons, List.findSome?_cons, hf, hg]
  | later hf hg _ ih => rw [List.findSome?_cons, List.findSome?_cons, hf, hg, ih]

theorem AgreeUpToFirst.place (h : AgreeUpToFirst PlacedFile.indexPath files others)
    (hpaths : files.map PlacedFile.path = others.map PlacedFile.path) :
    AgreeUpToFirst (PlacedFile.place home) files others := by
  induction h with
  | nil => exact .nil
  | @first f g _ _ text hf hg hlength =>
      obtain ⟨hpath, -⟩ := List.cons.inj hpaths
      have hdir : f.dir = g.dir := by
        rw [PlacedFile.dir, PlacedFile.dir, hpath]
      have hplace : f.place home = some (Path.resolve? home f.dir text) := by
        rw [PlacedFile.place, hf, Option.map_some]
      refine .first hplace ?_ hlength
      rw [PlacedFile.place, hg, Option.map_some, hdir]
  | later hf hg _ ih =>
      obtain ⟨-, hpaths⟩ := List.cons.inj hpaths
      refine .later ?_ ?_ (ih hpaths)
      · rw [PlacedFile.place, hf, Option.map_none]
      · rw [PlacedFile.place, hg, Option.map_none]

namespace Settings

/-- Files at the same places that differ only in settings that a closer file says, too. -/
structure DifferOnlyOverridden (files others : List PlacedFile) : Prop where
  paths : files.map PlacedFile.path = others.map PlacedFile.path
  indexPath : AgreeUpToFirst PlacedFile.indexPath files others
  language : AgreeUpToFirst PlacedFile.language files others
  heapSize : AgreeUpToFirst PlacedFile.heapSize files others
  defaultLimit : AgreeUpToFirst PlacedFile.defaultLimit files others
  score : AgreeUpToFirst PlacedFile.score files others
  scoring : AgreeUpToFirst PlacedFile.scoring files others

/-- Of every file's path that a closer file overrides it is known where it leads. -/
def OverriddenResolve (home : Option Path) (files : List PlacedFile) : Prop :=
  ∀ before f after, files = before ++ f :: after → (∃ g ∈ before, g.indexPath ≠ none) →
    f.Resolves home

theorem DifferOnlyOverridden.closest_eq (h : DifferOnlyOverridden files others) :
    closest home files = closest home others := by
  have hdirs : files.head?.map PlacedFile.dir = others.head?.map PlacedFile.dir := by
    have hhead : files.head?.map PlacedFile.path = others.head?.map PlacedFile.path := by
      rw [← List.head?_map, ← List.head?_map, h.paths]
    have hdir : PlacedFile.dir = (fun p : Path => p.parent?.getD ⟨"."⟩) ∘ PlacedFile.path := rfl
    rw [hdir, ← Option.map_map, ← Option.map_map, hhead]
  rw [closest, closest, (h.indexPath.place h.paths).findSome?_eq, h.language.findSome?_eq,
    h.heapSize.findSome?_eq, h.defaultLimit.findSome?_eq, h.score.findSome?_eq,
    h.scoring.findSome?_eq, hdirs]

/-- If overridden paths lead somewhere, it is up to the closest file that names one whether all
do. -/
theorem OverriddenResolve.resolves_iff (h : OverriddenResolve home files) :
    (∀ f ∈ files, f.Resolves home) ↔ files.findSome? (PlacedFile.place home) ≠ some none := by
  constructor
  · intro hall hnone
    obtain ⟨f, hf, hplace⟩ := List.exists_of_findSome?_eq_some hnone
    exact hall f hf hplace
  · intro hclosest f hf hplace
    obtain ⟨before, after, rfl⟩ := List.append_of_mem hf
    by_cases hoverridden : ∃ g ∈ before, g.indexPath ≠ none
    · exact h before f after rfl hoverridden hplace
    · refine hclosest ?_
      have hbefore : ∀ g ∈ before, g.place home = none := by
        intro g hg
        have hsilent : g.indexPath = none :=
          Classical.byContradiction fun hsaid => hoverridden ⟨g, hg, hsaid⟩
        rw [PlacedFile.place, hsilent, Option.map_none]
      rw [List.findSome?_append, List.findSome?_eq_none_iff.mpr hbefore, List.findSome?_cons,
        hplace]
      rfl

/-- With a home directory every path leads somewhere. -/
theorem resolves_of_home (dir : Path) (f : PlacedFile) : f.Resolves (some dir) := by
  intro h
  obtain ⟨text, _, hnone⟩ := Option.map_eq_some_iff.mp h
  rw [Path.resolve?, Option.map_eq_none_iff, Path.expandHome?] at hnone
  split at hnone <;> cases hnone

/-- Files that differ only in what is overridden merge to the same settings, if both merge. They
merge alike, failures included, if overridden paths lead somewhere, as all paths do from a known
home directory. Merging only fails for want of one that the path of a file begins at. -/
theorem merge_of_differOnlyOverridden (h : DifferOnlyOverridden files others) :
    (∀ s t, merge home files = .ok s → merge home others = .ok t → s = t) ∧
    (OverriddenResolve home files → OverriddenResolve home others →
      merge home files = merge home others) ∧
    (∀ dir, merge (some dir) files = merge (some dir) others) ∧
    ∀ e, merge home files = .error e → home = none ∧ e = .noHome ∧
      ∃ f ∈ files, ∃ text, f.indexPath = some text ∧ Path.resolve? home f.dir text = none := by
  refine ⟨?_, ?_, ?_, ?_⟩
  · intro s t hs ht
    rw [(merge_eq_ok_iff.mp hs).2, (merge_eq_ok_iff.mp ht).2, h.closest_eq]
  · intro hfiles hothers
    have hagree : AgreeUpToFirst (PlacedFile.place home) files others := h.indexPath.place h.paths
    have hplaces := hagree.findSome?_eq
    rw [merge_eq, merge_eq, h.closest_eq]
    simp only [hfiles.resolves_iff, hothers.resolves_iff, hplaces]
  · intro dir
    rw [merge_eq, merge_eq, h.closest_eq, if_pos fun f _ => resolves_of_home dir f,
      if_pos fun f _ => resolves_of_home dir f]
  · intro e he
    obtain ⟨⟨f, hf, hnot⟩, rfl⟩ := merge_eq_error_iff.mp he
    refine ⟨?_, rfl, f, hf, Option.map_eq_some_iff.mp (Classical.not_not.mp hnot)⟩
    cases home with
    | none => rfl
    | some dir => exact absurd (resolves_of_home dir f) hnot

def placedTwice (farther : String) : List PlacedFile :=
  [⟨⟨"/work/.quarry.toml"⟩, ⟨none, some ⟨some "/srv", none, none⟩, none, none⟩⟩,
    ⟨⟨"/.quarry.toml"⟩, ⟨none, some ⟨some farther, some "french", none⟩, none, none⟩⟩]

theorem differOnlyOverridden_placedTwice (a b : String) :
    DifferOnlyOverridden (placedTwice a) (placedTwice b) where
  paths := rfl
  indexPath := .first rfl rfl rfl
  language := .later rfl rfl (.first rfl rfl rfl)
  heapSize := .later rfl rfl (.later rfl rfl .nil)
  defaultLimit := .later rfl rfl (.later rfl rfl .nil)
  score := .later rfl rfl (.later rfl rfl .nil)
  scoring := .later rfl rfl (.later rfl rfl .nil)

theorem merge_placedTwice :
    DifferOnlyOverridden (placedTwice "books") (placedTwice "/books") ∧
      OverriddenResolve none (placedTwice "books") ∧
      OverriddenResolve none (placedTwice "/books") ∧
      merge none (placedTwice "books") = merge none (placedTwice "/books") := by
  have hdiffer := differOnlyOverridden_placedTwice "books" "/books"
  have hbooks : ∀ f ∈ placedTwice "books", f.Resolves none := by decide
  have hroot : ∀ f ∈ placedTwice "/books", f.Resolves none := by decide
  have hfiles : OverriddenResolve none (placedTwice "books") := fun before f after hsplit _ =>
    hbooks f (hsplit ▸ List.mem_append_right before List.mem_cons_self)
  have hothers : OverriddenResolve none (placedTwice "/books") := fun before f after hsplit _ =>
    hroot f (hsplit ▸ List.mem_append_right before List.mem_cons_self)
  exact ⟨hdiffer, hfiles, hothers, (merge_of_differOnlyOverridden hdiffer).2.1 hfiles hothers⟩

/-- An overridden path that begins at the home directory keeps files from merging while that is
unknown. -/
theorem overridden_tilde_matters :
    ¬ ∀ (home : Option Path) (files others : List PlacedFile), DifferOnlyOverridden files others →
      merge home files = merge home others := by
  intro h
  have hsame := h none _ _ (differOnlyOverridden_placedTwice "~/books" "books")
  have hfails : merge none (placedTwice "~/books") = .error .noHome := rfl
  obtain ⟨s, hmerges⟩ : ∃ s, merge none (placedTwice "books") = .ok s := ⟨_, rfl⟩
  rw [hfails, hmerges] at hsame
  cases hsame

end Settings

end Catalogue
