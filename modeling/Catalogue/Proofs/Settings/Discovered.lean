import Catalogue.Proofs.Files.Ancestors
import Catalogue.Proofs.Settings.Isolation

/-! # Which settings files are found

The files of a directory and of those above it are found, closest first, up to the nearest root. If
there is none, the file of the home directory comes last, unless it was found on the way. No file is
found twice. -/

namespace Catalogue.Settings

variable {t : Tree} {home : Option Path} {dir : Path} {dirs found : List Path}

def SaysRoot (t : Tree) (dir : Path) : Prop :=
  ∃ f, readFile t (fileIn dir) = .ok f ∧ f.file.isRoot = some true

/-- The files to be found: those up to the nearest root if there is one, and otherwise all of them
and that of the home directory, if it has one that is not among them. -/
inductive Discovered (t : Tree) (home : Option Path) (dir : Path) : List Path → Prop where
  | rooted {below root above} (hsplit : dir.ancestors = below ++ root :: above)
      (hbelow : ∀ d ∈ below, ¬SaysRoot t d) (hroot : SaysRoot t root) :
      Discovered t home dir (filesIn t below ++ [fileIn root])
  | withHome {h} (hunrooted : ∀ d ∈ dir.ancestors, ¬SaysRoot t d) (hhome : home = some h)
      (hfile : t.isFile (fileIn h))
      (hnew : ∀ p ∈ filesIn t dir.ancestors, (fileIn h).parts ≠ p.parts) :
      Discovered t home dir (filesIn t dir.ancestors ++ [fileIn h])
  | withoutHome (hunrooted : ∀ d ∈ dir.ancestors, ¬SaysRoot t d)
      (hnone : ∀ h, home = some h → t.isFile (fileIn h) →
        ∃ p ∈ filesIn t dir.ancestors, (fileIn h).parts = p.parts) :
      Discovered t home dir (filesIn t dir.ancestors)

/-! ## The search -/

theorem isRootFile_eq_false_iff : isRootFile t (fileIn dir) = false ↔ ¬SaysRoot t dir := by
  rw [← Bool.not_eq_true, isRootFile_iff]
  rfl

theorem filesUpToRoot_of_unrooted (h : ∀ d ∈ dirs, ¬SaysRoot t d) :
    filesUpToRoot t dirs = (filesIn t dirs, false) := by
  have hfound := filesUpToRoot_unrooted (fun d hd => isRootFile_eq_false_iff.mpr (h d hd)) []
  rwa [List.append_nil, filesUpToRoot, List.append_nil] at hfound

theorem filesUpToRoot_of_rooted {below above : List Path} {root : Path}
    (hbelow : ∀ d ∈ below, ¬SaysRoot t d) (hroot : SaysRoot t root) :
    filesUpToRoot t (below ++ root :: above) = (filesIn t below ++ [fileIn root], true) := by
  obtain ⟨f, hf, hf'⟩ := hroot
  rw [filesUpToRoot_unrooted fun d hd => isRootFile_eq_false_iff.mpr (hbelow d hd), filesUpToRoot,
    if_pos (isFile_of_readFile hf), if_pos (isRootFile_iff.mpr ⟨f, hf, hf'⟩)]

/-- What is to be found is found. -/
theorem Discovered.eq (h : Discovered t home dir found) : discover t home dir = found := by
  unfold discover
  cases h with
  | rooted hsplit hbelow hroot =>
      rw [hsplit, filesUpToRoot_of_rooted hbelow hroot]
      cases home <;> rfl
  | withHome hunrooted hhome hfile hnew =>
      rw [filesUpToRoot_of_unrooted hunrooted, hhome]
      have hnone : ∀ p ∈ filesIn t dir.ancestors, ¬(fileIn _).same p = true := fun p hp hsame =>
        hnew p hp (Path.same_iff.mp hsame)
      simp [hfile, List.any_eq_false.mpr hnone]
  | withoutHome hunrooted hnone =>
      rw [filesUpToRoot_of_unrooted hunrooted]
      cases home with
      | none => rfl
      | some h =>
          by_cases hfile : t.isFile (fileIn h)
          · obtain ⟨p, hp, hparts⟩ := hnone h rfl hfile
            have hany : (filesIn t dir.ancestors).any (fileIn h).same = true :=
              List.any_eq_true.mpr ⟨p, hp, Path.same_iff.mpr hparts⟩
            simp [hany]
          · simp [hfile]

/-- There is always something to be found, which may be nothing at all. -/
theorem exists_discovered (t : Tree) (home : Option Path) (dir : Path) :
    ∃ found, Discovered t home dir found := by
  cases hroot : dir.ancestors.find? fun d => isRootFile t (fileIn d) with
  | some root =>
      obtain ⟨hroot, below, above, hsplit, hbelow⟩ := List.find?_eq_some_iff_append.mp hroot
      refine ⟨_, .rooted hsplit (fun d hd => ?_) (isRootFile_iff.mp hroot)⟩
      exact isRootFile_eq_false_iff.mp (by simpa using hbelow d hd)
  | none =>
      have hunrooted : ∀ d ∈ dir.ancestors, ¬SaysRoot t d := fun d hd =>
        isRootFile_eq_false_iff.mp (by simpa using List.find?_eq_none.mp hroot d hd)
      by_cases hnew : ∃ h, home = some h ∧ t.isFile (fileIn h) = true ∧
          ∀ p ∈ filesIn t dir.ancestors, (fileIn h).parts ≠ p.parts
      · obtain ⟨h, hhome, hfile, hnew⟩ := hnew
        exact ⟨_, .withHome hunrooted hhome hfile hnew⟩
      · refine ⟨_, .withoutHome hunrooted fun h hhome hfile => ?_⟩
        by_contra hnone
        exact hnew ⟨h, hhome, hfile, fun p hp hparts => hnone ⟨p, hp, hparts⟩⟩

/-! ## No file twice -/

/-- What is found is a settings file, of a directory on the way up or of the home directory. -/
theorem Discovered.mem (h : Discovered t home dir found) {p : Path} (hp : p ∈ found) :
    t.isFile p ∧ ∃ d, p = fileIn d ∧ (d ∈ dir.ancestors ∨ home = some d) := by
  have hfilesIn : ∀ {dirs : List Path}, (∀ d ∈ dirs, d ∈ dir.ancestors) → p ∈ filesIn t dirs →
      t.isFile p ∧ ∃ d, p = fileIn d ∧ (d ∈ dir.ancestors ∨ home = some d) := by
    intro dirs hdirs hmem
    obtain ⟨hmem, hfile⟩ := List.mem_filter.mp hmem
    obtain ⟨d, hd, rfl⟩ := List.mem_map.mp hmem
    exact ⟨hfile, d, rfl, .inl (hdirs d hd)⟩
  cases h with
  | rooted hsplit hbelow hroot =>
      rcases List.mem_append.mp hp with hp | hp
      · exact hfilesIn (fun d hd => by simp [hsplit, hd]) hp
      · obtain ⟨f, hf, _⟩ := hroot
        rw [List.mem_singleton.mp hp]
        exact ⟨isFile_of_readFile hf, _, rfl, .inl (by simp [hsplit])⟩
  | withHome hunrooted hhome hfile hnew =>
      rcases List.mem_append.mp hp with hp | hp
      · exact hfilesIn (fun d hd => hd) hp
      · rw [List.mem_singleton.mp hp]
        exact ⟨hfile, _, rfl, .inr hhome⟩
  | withoutHome hunrooted hnone => exact hfilesIn (fun d hd => hd) hp

theorem parts_fileIn (h : dir.isAbsolute = true) :
    (fileIn dir).parts = dir.parts ++ [".quarry.toml"] :=
  Path.parts_join_name h (by decide) (by decide)

/-- The files of directories on the way up differ, because each directory has fewer names than those
before it. -/
theorem distinct_filesIn (h : dir.isAbsolute = true) (hdirs : dirs.Sublist dir.ancestors) :
    (filesIn t dirs).Pairwise fun p q => p.parts ≠ q.parts := by
  have hclimbs := Path.climbs_ancestors h
  refine List.Pairwise.sublist (List.filter_sublist.trans (hdirs.map fileIn)) ?_
  rw [List.pairwise_map]
  refine (hclimbs.shortening h).imp_of_mem fun hp hq hlt heq => ?_
  rw [parts_fileIn (hclimbs.isAbsolute h _ hp), parts_fileIn (hclimbs.isAbsolute h _ hq)] at heq
  have hlen := congrArg List.length heq
  simp only [List.length_append] at hlen
  omega

theorem Discovered.distinct (h : Discovered t home dir found) (hdir : dir.isAbsolute = true) :
    found.Pairwise fun p q => p.parts ≠ q.parts := by
  cases h with
  | @rooted below root above hsplit hbelow hroot =>
      obtain ⟨f, hf, _⟩ := hroot
      rw [← filesIn_concat (isFile_of_readFile hf)]
      refine distinct_filesIn hdir ?_
      rw [hsplit, List.append_cons below root above]
      exact List.sublist_append_left _ _
  | withHome hunrooted hhome hfile hnew =>
      refine List.pairwise_append.mpr ⟨distinct_filesIn hdir (List.Sublist.refl _),
        List.pairwise_singleton _ _, fun p hp q hq => ?_⟩
      rw [List.mem_singleton.mp hq]
      exact (hnew p hp).symm
  | withoutHome hunrooted hnone => exact distinct_filesIn hdir (List.Sublist.refl _)

/-- Unless a directory is written with a step back up, paths with different parts lead to different
files. -/
theorem Discovered.distinct_places (h : Discovered t home dir found) (hdir : dir.isAbsolute = true)
    (hup : ".." ∉ dir.parts) (hhome : ∀ h, home = some h → h.isAbsolute = true ∧ ".." ∉ h.parts) :
    found.Pairwise fun p q => t.locate p ≠ t.locate q := by
  have hplain : ∀ p ∈ found, ∃ place, t.locate p = .ok place ∧ p.parts = "/" :: place := by
    intro p hp
    obtain ⟨hfile, d, rfl, hd⟩ := h.mem hp
    have hd : d.isAbsolute = true ∧ ".." ∉ d.parts := by
      rcases hd with hd | hd
      · have hclimbs := Path.climbs_ancestors hdir
        have hbelow := Path.isBelow_iff.mp (hclimbs.isBelow hdir d hd)
        exact ⟨hclimbs.isAbsolute hdir d hd, fun hmem => hup (hbelow.subset hmem)⟩
      · exact hhome d hd
    have hfileUp : ".." ∉ (fileIn d).parts := by
      rw [parts_fileIn hd.1]
      simpa using hd.2
    cases hplace : t.locate (fileIn d) with
    | error e => simp [Tree.isFile, Tree.find?, hplace] at hfile
    | ok place =>
        have habsolute : (fileIn d).isAbsolute = true := Path.isAbsolute_join hd.1
        exact ⟨place, rfl, Tree.parts_of_locate habsolute hfileUp hplace⟩
  refine (h.distinct hdir).imp_of_mem fun hp hq hne heq => hne ?_
  obtain ⟨place, hplace, hparts⟩ := hplain _ hp
  obtain ⟨place', hplace', hparts'⟩ := hplain _ hq
  rw [hplace, hplace', Except.ok.injEq] at heq
  rw [hparts, hparts', heq]

/-- In an absolute directory, the files that are found are those to be found on the way up to the
root of the tree, each of them once. The directories on that way are those of the first parts of the
directory's path. -/
theorem discover_exact (hdir : dir.isAbsolute = true) :
    (∀ found, discover t home dir = found ↔ Discovered t home dir found) ∧
      dir.Climbs dir.ancestors ∧
      dir.ancestors.map Path.parts = dir.parts.inits.tail.reverse ∧
      (discover t home dir).Pairwise (fun p q => p.parts ≠ q.parts) ∧
      (".." ∉ dir.parts → (∀ h, home = some h → h.isAbsolute = true ∧ ".." ∉ h.parts) →
        (discover t home dir).Pairwise fun p q => t.locate p ≠ t.locate q) := by
  have hclimbs := Path.climbs_ancestors hdir
  obtain ⟨found, hfound⟩ := exists_discovered t home dir
  have heq := hfound.eq
  refine ⟨fun other => ⟨fun hother => ?_, Discovered.eq⟩, hclimbs, hclimbs.map_parts hdir, ?_, ?_⟩
  · rwa [← hother, heq]
  · rw [heq]
    exact hfound.distinct hdir
  · rw [heq]
    exact hfound.distinct_places hdir

/-- A directory below the home directory, both with settings files, and a root beside the way. -/
def belowHome : Tree :=
  ⟨[(["home"], .directory), (["home", "books"], .directory), (["root"], .directory),
    (["home", "books", ".quarry.toml"], .text "root = false\n"),
    (["home", ".quarry.toml"], .text "[search]\nroot = true\n"),
    (["root", ".quarry.toml"], .text "root = true\n")]⟩

/-- The file of the home directory is met on the way up, however that directory is written. -/
theorem discovered_belowHome :
    Discovered belowHome (some ⟨"//home/./"⟩) ⟨"/home/books"⟩
        [⟨"/home/books/.quarry.toml"⟩, ⟨"/home/.quarry.toml"⟩] ∧
      Discovered belowHome (some ⟨"/root"⟩) ⟨"/home/books"⟩
        [⟨"/home/books/.quarry.toml"⟩, ⟨"/home/.quarry.toml"⟩, ⟨"/root/.quarry.toml"⟩] ∧
      Discovered belowHome (some ⟨"/home"⟩) ⟨"/root/"⟩ [⟨"/root/.quarry.toml"⟩] :=
  ⟨((discover_exact rfl).1 _).mp (by decide +kernel),
    ((discover_exact rfl).1 _).mp (by decide +kernel),
    ((discover_exact rfl).1 _).mp (by decide +kernel)⟩

end Catalogue.Settings
