import Catalogue.Proofs.Files.Writing
import Catalogue.Search.Storage

/-! # Opening a stored index

Opening an index makes its directory and its head file. From then on it changes nothing, and what is
found is what was stored last. -/

namespace Catalogue

namespace Index

variable {t u : Tree} {dir : Path} {index : Index} {stored : List Segment}

/-- A directory holds the segments of a stored index. -/
structure StoredIn (t : Tree) (dir : Path) (stored : List Segment) : Prop where
  directory : t.isDirectory dir = true
  head : t.find? (headFile dir) = some (.segments stored)

/-- A directory that can be made or is there has a path. -/
theorem text_ne_of_ensureDirectories (h : t.ensureDirectories dir = .ok u) : dir.text ≠ "" := by
  obtain ⟨text⟩ := dir
  rintro rfl
  cases h

theorem isDirectory_of_head (hdir : dir.text ≠ "") (h : t.contains (headFile dir) = true) :
    t.isDirectory dir = true :=
  Tree.isDirectory_of_contains hdir (by decide) h

/-- Opening an index that has a head file changes nothing. -/
theorem eq_of_openIn_of_contains (hhead : t.contains (headFile dir) = true)
    (h : openIn t dir = .ok (index, u)) : u = t := by
  obtain ⟨v, hv, h⟩ := bind_eq_ok_iff.mp h
  have hensure := mapError_eq_ok_iff.mp hv
  have hdirectory := isDirectory_of_head (text_ne_of_ensureDirectories hensure) hhead
  rw [Tree.ensureDirectories_of_isDirectory hdirectory] at hensure
  cases hensure
  split at h
  · cases h
    rfl
  · cases h
  · rename_i hfind
    rw [Tree.contains, hfind] at hhead
    cases hhead

theorem StoredIn.storeIn (h : StoredIn t dir stored) (index : Index) :
    ∃ u, index.storeIn t dir = .ok u ∧ StoredIn u dir index.segments := by
  obtain ⟨u, hu⟩ := Tree.exists_write_of_find? h.head nofun (.segments index.segments)
  have hfind := Tree.find?_write hu
  have hdir : dir.text ≠ "" :=
    text_ne_of_ensureDirectories (Tree.ensureDirectories_of_isDirectory h.directory)
  refine ⟨u, ?_, isDirectory_of_head hdir ?_, hfind⟩
  · rw [Index.storeIn, hu]
    rfl
  · rw [Tree.contains, hfind]
    rfl

/-- An index cannot be opened for the files' sake only, or because its head file is none. -/
theorem openIn_error {e : IndexError} (h : openIn t dir = .error e) :
    (∃ reason, e = .io reason) ∨ e = .unreadable dir.text ∧
      ∃ u, t.ensureDirectories dir = .ok u ∧ u.contains (headFile dir) = true := by
  unfold openIn at h
  cases hensure : t.ensureDirectories dir with
  | error reason =>
      rw [hensure] at h
      cases h
      exact .inl ⟨_, rfl⟩
  | ok u =>
      simp only [hensure, Except.mapError, ok_bind] at h
      split at h
      · cases h
      · rename_i hfind
        cases h
        refine .inr ⟨rfl, u, rfl, ?_⟩
        rw [Tree.contains, hfind]
        rfl
      · rcases bind_eq_error_iff.mp h with hwrite | ⟨w, _, hdone⟩
        · split at hwrite
          · cases hwrite
            exact .inl ⟨_, rfl⟩
          · cases hwrite
        · cases hdone

end Index

/-! ## Opening the service -/

namespace Service

variable {ε : Type} {stemmers : Analysis.Stemmers} {t u : Tree} {settings : Settings} {r : Registry}
  {g : Graph} {dir : Path} {index : Index}

theorem openWith_of_graph_error {e : GraphError}
    (hg : Graph.ofSettings settings.scoring r = .error e) :
    (openWith stemmers t settings r : Except SearchError (Index × Service ε) × Tree) =
      (.error (.graph e), t) := by
  rw [openWith, hg]

theorem openWith_of_openIn_error (hg : Graph.ofSettings settings.scoring r = .ok g)
    (hpath : settings.index.path = some dir) {e : IndexError} (h : Index.openIn t dir = .error e) :
    (openWith stemmers t settings r : Except SearchError (Index × Service ε) × Tree) =
      (.error (.index e), t) := by
  simp only [openWith, hg, hpath, h]

theorem openWith_of_openIn (hg : Graph.ofSettings settings.scoring r = .ok g)
    (hpath : settings.index.path = some dir) (h : Index.openIn t dir = .ok (index, u)) :
    (openWith stemmers t settings r : Except SearchError (Index × Service ε) × Tree) =
      ((create stemmers index ⟨settings.index.language, settings.index.heapSize⟩ g
        settings.search.score).map fun service => (index, service), u) := by
  simp only [openWith, hg, hpath, h]

theorem openWith_of_memory (hg : Graph.ofSettings settings.scoring r = .ok g)
    (hpath : settings.index.path = none) :
    (openWith stemmers t settings r : Except SearchError (Index × Service ε) × Tree) =
      ((create stemmers Index.empty ⟨settings.index.language, settings.index.heapSize⟩ g
        settings.search.score).map fun service => (Index.empty, service), t) := by
  simp only [openWith, hg, hpath]

/-- Opening the service over an index that has a head file changes nothing. -/
theorem openWith_tree_of_contains (hpath : settings.index.path = some dir)
    (hhead : t.contains (Index.headFile dir) = true) :
    (openWith stemmers t settings r : Except SearchError (Index × Service ε) × Tree).2 = t := by
  cases hg : Graph.ofSettings settings.scoring r with
  | error e => rw [openWith_of_graph_error hg]
  | ok g =>
      cases hopen : Index.openIn t dir with
      | error e => rw [openWith_of_openIn_error hg hpath hopen]
      | ok found =>
          obtain ⟨index, u⟩ := found
          rw [openWith_of_openIn hg hpath hopen]
          exact Index.eq_of_openIn_of_contains hhead hopen

/-- With an entry point and known fields, only the language can be refused. -/
theorem create_of_checked {score : String} {s : ServiceSettings} (hfields : g.validateFields = .ok ())
    (hentry : g.checkEntry score = .ok ()) :
    (create stemmers index s g score : Except SearchError (Service ε)) =
      match Analysis.Language.ofName s.language with
      | .ok language => .ok ⟨stemmers.of language, g, score, s.heapSize, [], none, index.snapshot⟩
      | .error name => .error (.index (.invalidLanguage name)) := by
  unfold create
  rw [hfields, hentry]
  cases Analysis.Language.ofName s.language <;> rfl

/-- Without an entry point or with unknown fields the service does not open. -/
theorem exists_openWith_error (hg : Graph.ofSettings settings.scoring r = .ok g) {e : GraphError}
    (h : (do g.checkEntry settings.search.score; g.validateFields) = .error e) :
    ∃ e, (openWith stemmers t settings r : Except SearchError (Index × Service ε) × Tree).1 =
      .error e := by
  have hcreate : ∀ index, ∃ e, (create stemmers index
      ⟨settings.index.language, settings.index.heapSize⟩ g settings.search.score :
        Except SearchError (Service ε)) = .error e := by
    intro index
    cases hcreate : (create stemmers index _ g _ : Except SearchError (Service ε)) with
    | error e => exact ⟨e, rfl⟩
    | ok service =>
        obtain ⟨_, _, hrest⟩ := bind_eq_ok_iff.mp hcreate
        obtain ⟨_, hfields, hrest⟩ := bind_eq_ok_iff.mp hrest
        obtain ⟨_, hentry, _⟩ := bind_eq_ok_iff.mp hrest
        rw [mapError_eq_ok_iff.mp hfields, mapError_eq_ok_iff.mp hentry] at h
        cases h
  cases hpath : settings.index.path with
  | none =>
      obtain ⟨e, he⟩ := hcreate Index.empty
      exact ⟨e, by rw [openWith_of_memory hg hpath, he]; rfl⟩
  | some dir =>
      cases hopen : Index.openIn t dir with
      | error e => exact ⟨_, by rw [openWith_of_openIn_error hg hpath hopen]⟩
      | ok found =>
          obtain ⟨index, u⟩ := found
          obtain ⟨e, he⟩ := hcreate index
          exact ⟨e, by rw [openWith_of_openIn hg hpath hopen, he]; rfl⟩

end Service

def Command.opened (stemmers : Analysis.Stemmers) (t : Tree) (settings : Settings) :
    Except SearchError (Index × Service Empty) × Tree :=
  Service.openWith stemmers t settings Registry.builtin

end Catalogue
