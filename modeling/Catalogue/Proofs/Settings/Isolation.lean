import Catalogue.Proofs.Files.Writing
import Catalogue.Proofs.Settings.Closest
import Catalogue.Settings.Discovery

/-! # Settings end at a boundary

A settings file that is the root, or that cannot be read as one, keeps all files farther away from
having a say. A root ends the search for files. A broken file does not, so that files beyond it are
found as well, but it is reached before them and reading ends there. -/

namespace Catalogue

/-- What can be read is a file. -/
theorem Tree.isFile_of_readText {t : Tree} {p : Path} {text : String}
    (h : t.readText p = .ok text) : t.isFile p := by
  obtain ⟨place, hplace, h⟩ := bind_eq_ok_iff.mp h
  rw [Tree.isFile, Tree.find?_of_locate hplace]
  cases he : t.get? place with
  | none =>
      rw [he] at h
      cases h
  | some e =>
      rw [he] at h
      cases e with
      | directory => cases h
      | text | bytes | segments => rfl

namespace Settings

variable {t u : Tree} {home : Option Path} {dir boundary : Path} {below dirs : List Path}

def fileAt? (t : Tree) (dir : Path) : Option Entry :=
  (t.find? (fileIn dir)).filter fun e => !e.isDirectory

/-- No file farther away than that of the directory has a say. -/
inductive Boundary (t : Tree) (dir : Path) : Prop where
  | broken {e} : t.isFile (fileIn dir) → readFile t (fileIn dir) = .error e → Boundary t dir
  | root {f} : t.isFile (fileIn dir) → readFile t (fileIn dir) = .ok f →
      f.file.isRoot = some true → Boundary t dir

/-- The closest boundary at or above a directory, with the directories below it. -/
structure NearestBoundary (t : Tree) (dir : Path) (below : List Path) (boundary : Path) : Prop where
  above : ∃ farther, dir.ancestors = below ++ boundary :: farther
  clear : ∀ d ∈ below, ¬Boundary t d
  isBoundary : Boundary t boundary

def filesIn (t : Tree) (dirs : List Path) : List Path := (dirs.map fileIn).filter t.isFile

/-! ## What depends on which files -/

theorem isFile_fileIn (t : Tree) (dir : Path) : t.isFile (fileIn dir) = (fileAt? t dir).isSome := by
  unfold Tree.isFile fileAt?
  cases t.find? (fileIn dir) with
  | none => rfl
  | some e => cases h : e.isDirectory <;> simp [h]

theorem isFile_congr (h : fileAt? t dir = fileAt? u dir) :
    t.isFile (fileIn dir) = u.isFile (fileIn dir) := by
  rw [isFile_fileIn, isFile_fileIn, h]

theorem readText_congr (h : fileAt? t dir = fileAt? u dir) (hfile : t.isFile (fileIn dir)) :
    t.readText (fileIn dir) = u.readText (fileIn dir) := by
  rw [isFile_fileIn, Option.isSome_iff_exists] at hfile
  obtain ⟨e, he⟩ := hfile
  have hother : fileAt? u dir = some e := h.symm.trans he
  rw [Tree.readText_of_find? (Option.filter_eq_some_iff.mp he).1,
    Tree.readText_of_find? (Option.filter_eq_some_iff.mp hother).1]

theorem readFile_congr (h : fileAt? t dir = fileAt? u dir) (hfile : t.isFile (fileIn dir)) :
    readFile t (fileIn dir) = readFile u (fileIn dir) := by
  rw [readFile, readFile, readText_congr h hfile]

theorem filesIn_congr (h : ∀ d ∈ dirs, fileAt? t d = fileAt? u d) :
    filesIn t dirs = filesIn u dirs := by
  refine List.filter_congr fun p hp => ?_
  obtain ⟨d, hd, rfl⟩ := List.mem_map.mp hp
  exact isFile_congr (h d hd)

theorem mapM_readFile_congr (h : ∀ d ∈ dirs, fileAt? t d = fileAt? u d) :
    (filesIn t dirs).mapM (readFile t) = (filesIn t dirs).mapM (readFile u) := by
  induction dirs with
  | nil => rfl
  | cons d dirs ih =>
      have hrest := ih fun d' hd' => h d' (List.mem_cons_of_mem d hd')
      unfold filesIn at hrest ⊢
      rw [List.map_cons]
      by_cases hfile : t.isFile (fileIn d)
      · rw [List.filter_cons_of_pos hfile, List.mapM_cons, List.mapM_cons,
          readFile_congr (h d List.mem_cons_self) hfile, hrest]
      · rw [List.filter_cons_of_neg hfile, hrest]

/-- What files say depends only on what they are. -/
theorem ofFiles_congr (h : ∀ d ∈ dirs, fileAt? t d = fileAt? u d) :
    ofFiles t home (filesIn t dirs) = ofFiles u home (filesIn u dirs) := by
  rw [ofFiles, ofFiles, mapM_readFile_congr h, filesIn_congr h]

/-! ## Files below a boundary -/

theorem isRootFile_iff :
    isRootFile t (fileIn dir) = true ↔
      ∃ f, readFile t (fileIn dir) = .ok f ∧ f.file.isRoot = some true := by
  unfold isRootFile readFile
  cases t.readText (fileIn dir) with
  | error reason =>
      refine ⟨nofun, ?_⟩
      rintro ⟨f, hf, _⟩
      cases hf
  | ok text =>
      have hread : (Except.ok text : Except FileError String).mapError
          (SettingsError.unreadable (fileIn dir)) = .ok text := rfl
      simp only [hread, ok_bind]
      cases SettingsFile.ofText? text with
      | none => simp
      | some file => simp [pure, Except.pure]

theorem exists_readFile_of_not_boundary (h : ¬Boundary t dir) (hfile : t.isFile (fileIn dir)) :
    ∃ f, readFile t (fileIn dir) = .ok f := by
  cases hread : readFile t (fileIn dir) with
  | ok f => exact ⟨f, rfl⟩
  | error e => exact absurd (.broken hfile hread) h

theorem isFile_of_readFile {f : PlacedFile} (h : readFile t (fileIn dir) = .ok f) :
    t.isFile (fileIn dir) := by
  obtain ⟨text, htext, _⟩ := bind_eq_ok_iff.mp h
  exact Tree.isFile_of_readText (mapError_eq_ok_iff.mp htext)

/-- The search for files passes directories without a root, and finds their files. -/
theorem filesUpToRoot_unrooted (h : ∀ d ∈ below, isRootFile t (fileIn d) = false)
    (rest : List Path) :
    filesUpToRoot t (below ++ rest) =
      (filesIn t below ++ (filesUpToRoot t rest).1, (filesUpToRoot t rest).2) := by
  induction below with
  | nil => rfl
  | cons d below ih =>
      have hrest := ih fun d' hd' => h d' (List.mem_cons_of_mem d hd')
      unfold filesIn at hrest ⊢
      rw [List.cons_append, filesUpToRoot, List.map_cons]
      by_cases hfile : t.isFile (fileIn d)
      · rw [if_pos hfile, h d List.mem_cons_self, hrest, List.filter_cons_of_pos hfile]
        rfl
      · rw [if_neg hfile, hrest, List.filter_cons_of_neg hfile]

theorem isRootFile_of_not_boundary (h : ¬Boundary t dir) : isRootFile t (fileIn dir) = false := by
  rw [← Bool.not_eq_true]
  intro hroot
  obtain ⟨f, hf, hf'⟩ := isRootFile_iff.mp hroot
  exact h (.root (isFile_of_readFile hf) hf hf')

theorem filesIn_concat (hfile : t.isFile (fileIn boundary)) :
    filesIn t (below ++ [boundary]) = filesIn t below ++ [fileIn boundary] := by
  simp [filesIn, hfile]

/-- The files up to the nearest boundary are found first. If it is the root, they are all. -/
theorem NearestBoundary.exists_discover (h : NearestBoundary t dir below boundary)
    (home : Option Path) :
    ∃ more, discover t home dir = filesIn t (below ++ [boundary]) ++ more ∧
      (isRootFile t (fileIn boundary) = true → more = []) := by
  obtain ⟨⟨farther, hsplit⟩, hclear, hboundary⟩ := h
  have hfile : t.isFile (fileIn boundary) := by
    cases hboundary <;> assumption
  have hfound := filesUpToRoot_unrooted (fun d hd => isRootFile_of_not_boundary (hclear d hd))
    (boundary :: farther)
  unfold discover
  rw [hsplit, hfound, filesUpToRoot, if_pos hfile, filesIn_concat hfile]
  cases hroot : isRootFile t (fileIn boundary) with
  | true => exact ⟨[], by cases home <;> simp, fun _ => rfl⟩
  | false =>
      cases home with
      | none => exact ⟨(filesUpToRoot t farther).1, by simp, nofun⟩
      | some home =>
          simp only [Bool.false_eq_true, if_false]
          split
          · exact ⟨(filesUpToRoot t farther).1 ++ [fileIn home], by simp, nofun⟩
          · exact ⟨(filesUpToRoot t farther).1, by simp, nofun⟩

theorem NearestBoundary.mapM_eq_error (h : NearestBoundary t dir below boundary)
    {e : SettingsError} (he : readFile t (fileIn boundary) = .error e) :
    (filesIn t (below ++ [boundary])).mapM (readFile t) = .error e := by
  have hfile : t.isFile (fileIn boundary) := by
    cases h.isBoundary <;> assumption
  rw [filesIn_concat hfile]
  refine mapM_concat_of_error (fun p hp => ?_) he
  obtain ⟨hmem, hp⟩ := List.mem_filter.mp hp
  obtain ⟨d, hd, rfl⟩ := List.mem_map.mp hmem
  exact exists_readFile_of_not_boundary (h.clear d hd) hp

/-- The settings in force are those of the files up to the nearest boundary. -/
theorem NearestBoundary.load_eq (h : NearestBoundary t dir below boundary) :
    load t home dir = ofFiles t home (filesIn t (below ++ [boundary])) := by
  obtain ⟨more, hmore, hroot⟩ := h.exists_discover home
  rw [load, hmore]
  cases h.isBoundary with
  | root _ hread hisRoot => rw [hroot (isRootFile_iff.mpr ⟨_, hread, hisRoot⟩), List.append_nil]
  | broken _ hread =>
      -- What was found beyond the broken file is never read.
      have hbroken := h.mapM_eq_error hread
      rw [ofFiles, ofFiles, mapM_append_of_error hbroken more, hbroken]

/-! ## The same files up to a boundary -/

theorem Boundary.congr (h : fileAt? t dir = fileAt? u dir) (hb : Boundary t dir) :
    Boundary u dir := by
  cases hb with
  | broken hfile hread =>
      exact .broken (isFile_congr h ▸ hfile) (readFile_congr h hfile ▸ hread)
  | root hfile hread hroot =>
      exact .root (isFile_congr h ▸ hfile) (readFile_congr h hfile ▸ hread) hroot

theorem NearestBoundary.congr (h : NearestBoundary t dir below boundary)
    (hsame : ∀ d ∈ below ++ [boundary], fileAt? t d = fileAt? u d) :
    NearestBoundary u dir below boundary where
  above := h.above
  clear d hd hb := by
    have hsame : fileAt? u d = fileAt? t d := (hsame d (List.mem_append_left _ hd)).symm
    exact h.clear d hd (hb.congr hsame)
  isBoundary := h.isBoundary.congr (hsame boundary (by simp))

/-- A file that cannot be read as settings is named by the error. -/
theorem eq_of_readFile_eq_error {p : Path} {e : SettingsError} (h : readFile t p = .error e) :
    (∃ reason, e = .unreadable p reason) ∨ e = .malformed p := by
  unfold readFile at h
  cases hread : t.readText p with
  | error reason =>
      rw [hread] at h
      cases h
      exact .inl ⟨reason, rfl⟩
  | ok text =>
      have hok : (Except.ok text : Except FileError String).mapError
          (SettingsError.unreadable p) = .ok text := rfl
      rw [hread, hok, ok_bind] at h
      split at h
      · cases h
      · cases h
        exact .inr rfl

/-- Two trees that have the same settings files up to a boundary give the same settings: if the
boundary can be read, what these files say together, which can fail only for the home directory,
and otherwise the error that names the boundary. -/
theorem load_isolated (h : NearestBoundary t dir below boundary)
    (hsame : ∀ d ∈ below ++ [boundary], fileAt? t d = fileAt? u d) :
    load t home dir = load u home dir ∧
      (∀ f, readFile t (fileIn boundary) = .ok f →
        ∃ files, (filesIn t (below ++ [boundary])).mapM (readFile t) = .ok files ∧
          load t home dir = merge home files ∧ ∀ e, load t home dir = .error e → e = .noHome) ∧
      ∀ e, readFile t (fileIn boundary) = .error e →
        load t home dir = .error e ∧
          ((∃ reason, e = .unreadable (fileIn boundary) reason) ∨
            e = .malformed (fileIn boundary)) := by
  have hother := h.congr hsame
  refine ⟨?_, ?_, ?_⟩
  · rw [h.load_eq, hother.load_eq, ofFiles_congr hsame]
  · intro f hf
    have hreads : ∀ p ∈ filesIn t (below ++ [boundary]), ∃ f, readFile t p = .ok f := by
      intro p hp
      obtain ⟨hmem, hfile⟩ := List.mem_filter.mp hp
      obtain ⟨d, hd, rfl⟩ := List.mem_map.mp hmem
      rcases List.mem_append.mp hd with hd | hd
      · exact exists_readFile_of_not_boundary (h.clear d hd) hfile
      · rw [List.mem_singleton.mp hd]
        exact ⟨f, hf⟩
    obtain ⟨files, hfiles⟩ := exists_mapM_eq_ok hreads
    have hmerge : load t home dir = merge home files := by
      rw [h.load_eq, ofFiles, hfiles, ok_bind]
    refine ⟨files, hfiles, hmerge, fun e he => ?_⟩
    exact (merge_eq_error_iff.mp (hmerge.symm.trans he)).2
  · intro e he
    refine ⟨?_, eq_of_readFile_eq_error he⟩
    rw [h.load_eq, ofFiles, h.mapM_eq_error he]
    rfl

def brokenAbove (farther : List (List String × Entry)) : Tree :=
  ⟨[(["work"], .directory), (["work", "a"], .directory),
    (["work", "a", ".quarry.toml"], .text "[search]\ndefault_limit = 3\n"),
    (["work", ".quarry.toml"], .text "root = tru\n")] ++ farther⟩

def brokenBelowRoot : Tree := brokenAbove [([".quarry.toml"], .text "root = true\n")]

def brokenBeforeHome : Tree :=
  brokenAbove [(["home"], .directory), (["home", ".quarry.toml"], .bytes)]

/-- Farther files are found, and have no say. -/
theorem load_brokenAbove :
    discover brokenBelowRoot (some ⟨"/home"⟩) ⟨"/work/a"⟩ =
        [⟨"/work/a/.quarry.toml"⟩, ⟨"/work/.quarry.toml"⟩, ⟨"/.quarry.toml"⟩] ∧
      discover brokenBeforeHome (some ⟨"/home"⟩) ⟨"/work/a"⟩ =
        [⟨"/work/a/.quarry.toml"⟩, ⟨"/work/.quarry.toml"⟩, ⟨"/home/.quarry.toml"⟩] ∧
      load brokenBelowRoot (some ⟨"/home"⟩) ⟨"/work/a"⟩ =
        load brokenBeforeHome (some ⟨"/home"⟩) ⟨"/work/a"⟩ ∧
      load brokenBelowRoot (some ⟨"/home"⟩) ⟨"/work/a"⟩ =
        .error (.malformed ⟨"/work/.quarry.toml"⟩) := by
  have hclose : readFile brokenBelowRoot ⟨"/work/a/.quarry.toml"⟩ =
      .ok ⟨⟨"/work/a/.quarry.toml"⟩, ⟨none, none, some ⟨some 3, none⟩, none⟩⟩ := by decide +kernel
  have hbroken : readFile brokenBelowRoot ⟨"/work/.quarry.toml"⟩ =
      .error (.malformed ⟨"/work/.quarry.toml"⟩) := by decide +kernel
  have hboundary : NearestBoundary brokenBelowRoot ⟨"/work/a"⟩ [⟨"/work/a"⟩] ⟨"/work"⟩ := by
    refine ⟨⟨[⟨"/"⟩], rfl⟩, ?_, .broken rfl hbroken⟩
    intro d hd hb
    rw [List.mem_singleton.mp hd] at hb
    cases hb with
    | broken _ hread => cases hclose.symm.trans hread
    | root _ hread hroot =>
        cases hclose.symm.trans hread
        cases hroot
  have hsame : ∀ d ∈ [⟨"/work/a"⟩] ++ [⟨"/work"⟩],
      fileAt? brokenBelowRoot d = fileAt? brokenBeforeHome d := by
    intro d hd
    rcases List.mem_append.mp hd with hd | hd
    · rw [List.mem_singleton.mp hd]
      rfl
    · rw [List.mem_singleton.mp hd]
      rfl
  obtain ⟨hload, _, herror⟩ := load_isolated hboundary hsame
  exact ⟨by decide +kernel, by decide +kernel, hload, (herror _ hbroken).1⟩

end Settings

end Catalogue
