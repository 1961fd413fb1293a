import Catalogue.Command.Check
import Catalogue.Proofs.Score.Reachable
import Catalogue.Proofs.Search.Opening

/-! # What a check foresees

A check looks at the settings in the order that opening the service does, and opens the service if
there is an index. What it complains of keeps the service from opening. If it does not complain the
service opens, unless there is no index yet: then files may be in the way, and the language of titles
is looked at for the first time. -/

namespace Catalogue.Command

open Service

variable {stemmers : Analysis.Stemmers} {s : Setting} {settings : Settings} {g : Graph}

/-- Opening the service fails for something that a check does not look at before there is an index:
files, the language, or a head file that is only led to once missing directories are made. -/
inductive Unforeseen (t : Tree) (settings : Settings) (dir : Path) : IndexError → Prop where
  | files {reason} : Unforeseen t settings dir (.io reason)
  | language {name} : Analysis.Language.ofName settings.index.language = .error name →
      Unforeseen t settings dir (.invalidLanguage name)
  | head {u} : t.ensureDirectories dir = .ok u → u.contains (Index.headFile dir) = true →
      Unforeseen t settings dir (.unreadable dir.text)

/-- The service opens, unless there is no index yet and something is in the way that a check does not
look at. -/
def OpensAsForeseen (stemmers : Analysis.Stemmers) (t : Tree) (settings : Settings) : Prop :=
  (∃ found, (opened stemmers t settings).1 = .ok found) ∨
    ∃ dir e, settings.index.path = some dir ∧ t.contains (Index.headFile dir) = false ∧
      (opened stemmers t settings).1 = .error (.index e) ∧ Unforeseen t settings dir e

/-- What a check shows agrees with what opening the service makes of the same files. -/
structure Foresees (stemmers : Analysis.Stemmers) (t : Tree) (settings : Settings) (o : Outcome) :
    Prop where
  tree : o.tree = t
  opens : o.succeeds = true → OpensAsForeseen stemmers t settings
  fails : o.errors ≠ [] → ∃ e, (opened stemmers t settings).1 = .error e

theorem Foresees.after {t : Tree} {o : Outcome} (h : Foresees stemmers t settings o)
    (lines : List String) : Foresees stemmers t settings (o.after lines) :=
  ⟨h.tree, h.opens, h.fails⟩

/-- Without an index yet, nothing but what is unforeseen keeps the service from opening. -/
theorem opensAsForeseen_of_unmade {dir : Path}
    (hg : Graph.ofSettings settings.scoring Registry.builtin = .ok g)
    (hentry : g.checkEntry settings.search.score = .ok ()) (hfields : g.validateFields = .ok ())
    (hpath : settings.index.path = some dir) {t : Tree}
    (hunmade : t.contains (Index.headFile dir) = false) :
    OpensAsForeseen stemmers t settings := by
  unfold OpensAsForeseen opened
  cases hopen : Index.openIn t dir with
  | error e =>
      rw [openWith_of_openIn_error hg hpath hopen]
      refine .inr ⟨dir, e, hpath, hunmade, rfl, ?_⟩
      rcases Index.openIn_error hopen with ⟨reason, rfl⟩ | ⟨rfl, u, hu, hhead⟩
      · exact .files
      · exact .head hu hhead
  | ok found =>
      obtain ⟨index, u⟩ := found
      rw [openWith_of_openIn hg hpath hopen, create_of_checked hfields hentry]
      cases hlanguage : Analysis.Language.ofName settings.index.language with
      | ok language => exact .inl ⟨_, rfl⟩
      | error name => exact .inr ⟨dir, _, hpath, hunmade, rfl, .language hlanguage⟩

theorem warnings_of_path_none (hpath : settings.index.path = none) :
    settings.warnings.isEmpty = false := by
  simp [Settings.warnings, hpath]

theorem checkIndex_foresees (hg : Graph.ofSettings settings.scoring Registry.builtin = .ok g)
    (hentry : g.checkEntry settings.search.score = .ok ()) (hfields : g.validateFields = .ok ()) :
    Foresees s.stemmers s.tree settings (checkIndex s settings) := by
  -- Warnings are a failure without errors.
  have hshown : ∀ {lines : List String}, OpensAsForeseen s.stemmers s.tree settings ∨
      settings.warnings.isEmpty = false →
      Foresees s.stemmers s.tree settings ((showWarnings s settings.warnings).after lines) := by
    intro lines h
    unfold showWarnings
    by_cases hempty : settings.warnings.isEmpty
    · rw [if_pos hempty]
      refine ⟨rfl, fun _ => ?_, fun hne => absurd rfl hne⟩
      exact h.resolve_right (by simp [hempty])
    · rw [if_neg hempty]
      exact ⟨rfl, nofun, fun hne => absurd rfl hne⟩
  unfold checkIndex indexLines
  cases hpath : settings.index.path with
  | none => exact hshown (.inr (warnings_of_path_none hpath))
  | some dir =>
      simp only
      by_cases hhead : s.tree.contains (Index.headFile dir) = true
      · have htree : (openWith (ε := Empty) s.stemmers s.tree settings Registry.builtin).2 = s.tree :=
          openWith_tree_of_contains hpath hhead
        rw [if_pos hhead]
        cases hopen : openWith (ε := Empty) s.stemmers s.tree settings Registry.builtin with
        | mk result u =>
            rw [hopen] at htree
            cases htree
            cases result with
            | error e =>
                refine ⟨rfl, nofun, fun _ => ⟨e, ?_⟩⟩
                rw [opened, hopen]
            | ok found =>
                refine hshown (.inl (.inl ⟨found, ?_⟩))
                rw [opened, hopen]
      · rw [Bool.not_eq_true] at hhead
        simp only [hhead, Bool.false_eq_true, if_false]
        exact hshown (.inl (opensAsForeseen_of_unmade hg hentry hfields hpath hhead))

theorem checkGraph_foresees (hg : Graph.ofSettings settings.scoring Registry.builtin = .ok g) :
    Foresees s.stemmers s.tree settings (checkGraph s settings g) := by
  unfold checkGraph
  refine Foresees.after ?_ _
  cases hchecked : (do g.checkEntry settings.search.score; g.validateFields) with
  | error e => exact ⟨rfl, nofun, fun _ => exists_openWith_error hg hchecked⟩
  | ok _ =>
      obtain ⟨_, hentry, hfields⟩ := bind_eq_ok_iff.mp hchecked
      exact checkIndex_foresees hg hentry hfields

/-- Without settings files the default settings are in force, and the service opens. -/
theorem opened_of_noFiles (stemmers : Analysis.Stemmers) {t : Tree} {home : Option Path} {dir : Path}
    (hload : Settings.load t home dir = .ok settings) (hfiles : Settings.discover t home dir = []) :
    ∃ found, (opened stemmers t settings).1 = .ok found := by
  have hdefault : settings = Settings.default := by
    rw [Settings.load, hfiles] at hload
    exact (Except.ok.inj hload).symm
  rw [hdefault]
  exact ⟨_, rfl⟩

/-- What a check shows agrees with what opening the service makes of the same settings and files. -/
theorem check_foresees (hload : Settings.load s.tree s.home s.dir = .ok settings) :
    Foresees s.stemmers s.tree settings (s.check settings) := by
  unfold Setting.check
  by_cases hfiles : (Settings.discover s.tree s.home s.dir).isEmpty
  · rw [if_pos hfiles]
    have hopened := opened_of_noFiles s.stemmers hload (List.isEmpty_iff.mp hfiles)
    exact ⟨rfl, fun _ => .inl hopened, fun hne => absurd rfl hne⟩
  · rw [if_neg hfiles]
    refine Foresees.after ?_ _
    cases hg : Graph.ofSettings settings.scoring Registry.builtin with
    | error e =>
        refine ⟨rfl, nofun, fun _ => ⟨.graph e, ?_⟩⟩
        rw [opened, openWith_of_graph_error hg]
    | ok g => exact checkGraph_foresees hg

/-! ## A language that there is not -/

/-- Before there is an index, a check succeeds whatever the language is. -/
theorem check_succeeds_of_unmade {dir : Path}
    (hfiles : Settings.discover s.tree s.home s.dir ≠ [])
    (hg : Graph.ofSettings settings.scoring Registry.builtin = .ok g)
    (hentry : g.checkEntry settings.search.score = .ok ()) (hfields : g.validateFields = .ok ())
    (hpath : settings.index.path = some dir)
    (hunmade : s.tree.contains (Index.headFile dir) = false) (hwarnings : settings.warnings = []) :
    (s.check settings).succeeds = true := by
  have hindex : (checkIndex s settings).succeeds = true := by
    unfold checkIndex indexLines
    simp only [hpath, hunmade, Bool.false_eq_true, if_false, hwarnings]
    rfl
  have hchecked : (do g.checkEntry settings.search.score; g.validateFields) = .ok () := by
    rw [hentry, ok_bind, hfields]
  have hgraph : (checkGraph s settings g).succeeds = true := by
    unfold checkGraph
    simp only [Outcome.after]
    rw [hchecked]
    exact hindex
  unfold Setting.check
  simp only [List.isEmpty_iff, hfiles, if_false, hg]
  exact hgraph

/-- A directory whose settings file names a language, and an index that is not there. -/
def unmade (language : String) : Setting where
  tree := ⟨[(["work"], .directory), (["work", ".quarry.toml"],
    .text ("[index]\npath = \"index\"\nlanguage = \"" ++ language ++ "\"\n"))]⟩
  dir := ⟨"/work"⟩
  home := none
  input := ""
  stemmers := ⟨fun _ word => word⟩

def unmadeSettings (language : String) : Settings :=
  { Settings.default with
    index := { IndexSettings.default with path := some ⟨"/work/index"⟩, language }
    root := some ⟨"/work"⟩ }

/-- The default score reads every default binding. -/
theorem mem_reachable_default :
    ∀ name ∈ ScoringSettings.default.names,
      name ∈ ScoringSettings.default.reachable SearchSettings.default.score := by
  have htitles : ScoringSettings.default.Reads "weird_score" "title_length" := by decide
  have hisbns : ScoringSettings.default.Reads "weird_score" "isbn_length" := by decide
  have htitle : ScoringSettings.default.Reads "title_length" "title" := by decide
  have hisbn : ScoringSettings.default.Reads "isbn_length" "isbn" := by decide
  simp only [ScoringSettings.mem_reachable_iff]
  change ∀ name ∈ ["title", "isbn", "title_length", "isbn_length", "weird_score"], _
  simp only [List.forall_mem_cons]
  exact ⟨.tail (.single htitles) htitle, .tail (.single hisbns) hisbn, .single htitles,
    .single hisbns, .refl, nofun⟩

theorem warnings_unmade (language : String) : (unmadeSettings language).warnings = [] := by
  have hscore : SearchSettings.default.score ∈ ScoringSettings.default.names := by decide
  exact List.append_eq_nil_iff.mpr
    ⟨rfl, Settings.scoringWarnings_eq_nil hscore mem_reachable_default⟩

theorem unmade_succeeds {language : String}
    (hfiles : Settings.discover (unmade language).tree none ⟨"/work"⟩ = [⟨"/work/.quarry.toml"⟩]) :
    ((unmade language).check (unmadeSettings language)).succeeds = true := by
  have hne : Settings.discover (unmade language).tree none ⟨"/work"⟩ ≠ [] := by simp [hfiles]
  exact check_succeeds_of_unmade hne rfl rfl rfl rfl rfl (warnings_unmade language)

theorem discover_english : Settings.discover (unmade "english").tree none ⟨"/work"⟩ =
    [⟨"/work/.quarry.toml"⟩] := by decide +kernel

theorem load_english : Settings.load (unmade "english").tree none ⟨"/work"⟩ =
    .ok (unmadeSettings "english") := by
  rw [Settings.load, discover_english]
  decide +kernel

/-- A check succeeds, and the service opens. -/
theorem foresees_english :
    ∃ settings, Settings.load (unmade "english").tree none ⟨"/work"⟩ = .ok settings ∧
      ((unmade "english").check settings).succeeds = true ∧
      (∃ found, (opened (unmade "english").stemmers (unmade "english").tree settings).1 =
        .ok found) ∧
      Foresees (unmade "english").stemmers (unmade "english").tree settings
        ((unmade "english").check settings) :=
  ⟨_, load_english, unmade_succeeds discover_english, ⟨_, rfl⟩, check_foresees load_english⟩

/-- A check succeeds, and the service does not open, for no fault of the files. -/
theorem check_overlooks_language :
    ¬∀ (s : Setting) (settings : Settings), Settings.load s.tree s.home s.dir = .ok settings →
      (s.check settings).succeeds = true →
      (∃ found, (opened s.stemmers s.tree settings).1 = .ok found) ∨
        ∃ reason, (opened s.stemmers s.tree settings).1 = .error (.index (.io reason)) := by
  have hfiles : Settings.discover (unmade "klingon").tree none ⟨"/work"⟩ =
      [⟨"/work/.quarry.toml"⟩] := by decide +kernel
  have hload : Settings.load (unmade "klingon").tree none ⟨"/work"⟩ =
      .ok (unmadeSettings "klingon") := by
    rw [Settings.load, hfiles]
    decide +kernel
  have hopened : (opened (unmade "klingon").stemmers (unmade "klingon").tree
      (unmadeSettings "klingon")).1 =
      .error (.index (.invalidLanguage "klingon")) := rfl
  intro h
  rcases h (unmade "klingon") _ hload (unmade_succeeds hfiles) with ⟨found, hfound⟩ | ⟨reason, hio⟩
  · cases hopened.symm.trans hfound
  · cases hopened.symm.trans hio

end Catalogue.Command
