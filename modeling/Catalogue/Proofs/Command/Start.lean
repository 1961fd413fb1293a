import Catalogue.Command.Run
import Catalogue.Proofs.Files.Writing

/-! # Starting a catalogue again

The line that is added to an ignore list is found by the scan that decides whether to add it,
whatever text is before it. So the list is left as it is the next time, and starting again writes
what is there. -/

namespace Catalogue

/-! ## Lines -/

namespace Text

theorem splitLines_append_newline (cs ds : List Char) :
    splitLines (cs ++ '\n' :: ds) =
      ((splitLines cs).1, (splitLines cs).2 ++ (splitLines ds).1 :: (splitLines ds).2) := by
  induction cs with
  | nil => simp [splitLines]
  | cons c cs ih =>
      rw [List.cons_append, splitLines, ih, splitLines]
      by_cases hc : c = '\n'
      · simp [hc]
      · simp [hc]

theorem endedLines_append (line : List Char) (rest : List (List Char)) (next : List Char)
    (more : List (List Char)) :
    endedLines line (rest ++ next :: more) =
      (line :: rest).map dropReturn ++ endedLines next more := by
  induction rest generalizing line with
  | nil => rfl
  | cons other rest ih =>
      rw [List.cons_append, endedLines, ih]
      rfl

/-- A line feed ends the lines before it, and those behind it stand as they do alone. -/
theorem lines_append_newline (cs ds : List Char) :
    lines (cs ++ '\n' :: ds) =
      ((splitLines cs).1 :: (splitLines cs).2).map dropReturn ++ lines ds := by
  rw [lines, splitLines_append_newline]
  exact endedLines_append _ _ _ _

end Text

namespace Command

/-! ## The ignore list -/

theorem ignoresIndex_of_lines {text behind : String} (cs : List Char)
    (htext : text.toList = cs ++ '\n' :: behind.toList) (h : ignoresIndex behind = true) :
    ignoresIndex text = true := by
  rw [ignoresIndex, htext, Text.lines_append_newline, List.any_append, Bool.or_eq_true]
  exact .inr h

/-- Some line of an ignore list is, without the blanks around it, a pattern for the index. -/
def CoversIndex (text : String) : Prop :=
  ∃ line ∈ Text.lines text.toList, String.ofList (Text.trim line) ∈ ["index/", "index", "/index/"]

theorem ignoresIndex_iff {text : String} : ignoresIndex text = true ↔ CoversIndex text := by
  simp only [ignoresIndex, CoversIndex, List.any_eq_true, List.contains_iff_mem, indexPatterns]

/-- What is added to an ignore list so that it covers the index: nothing, or a line at its end. -/
inductive AddedTo (text : String) : String → Prop where
  | nothing : CoversIndex text → AddedTo text ""
  | line : ¬CoversIndex text → text = "" ∨ text.toList.getLast? = some '\n' →
      AddedTo text "index/\n"
  | newlineAndLine : ¬CoversIndex text → ¬(text = "" ∨ text.toList.getLast? = some '\n') →
      AddedTo text "\nindex/\n"

def covering (text : String) : String := if ignoresIndex text then text else addIndexPattern text

theorem covering_spec (text : String) :
    ∃ added, AddedTo text added ∧ covering text = text ++ added ∧
      CoversIndex (text ++ added) := by
  have hline : ignoresIndex "index/\n" = true := by decide +kernel
  by_cases h : ignoresIndex text = true
  · have hcovers := ignoresIndex_iff.mp h
    exact ⟨"", .nothing hcovers, by simp [covering, h], by simpa using hcovers⟩
  · have hnot := mt ignoresIndex_iff.mpr h
    have hcovering : covering text = addIndexPattern text := if_neg h
    rw [hcovering, addIndexPattern]
    by_cases hended : text = "" ∨ text.toList.getLast? = some '\n'
    · refine ⟨"index/\n", .line hnot hended, by simp [hended], ignoresIndex_iff.mp ?_⟩
      rcases hended with rfl | hlast
      · exact hline
      · obtain ⟨cs, hcs⟩ := List.getLast?_eq_some_iff.mp hlast
        exact ignoresIndex_of_lines cs (by simp [hcs]) hline
    · refine ⟨"\nindex/\n", .newlineAndLine hnot hended, ?_, ignoresIndex_iff.mp ?_⟩
      · simp only [Bool.or_eq_true, decide_eq_true_eq, if_neg hended]
        rw [String.append_assoc]
        rfl
      · exact ignoresIndex_of_lines text.toList (by simp) hline

/-- An ignore list that covers the index is left as it is. -/
theorem covering_covering (text : String) : covering (covering text) = covering text := by
  obtain ⟨added, _, hcovering, hcovers⟩ := covering_spec text
  rw [hcovering, covering, if_pos (ignoresIndex_iff.mpr hcovers)]

def ignoreListIn (dir : Path) : Path := dir.join ⟨".gitignore"⟩

section

variable {s : Setting} {list : Path} {q : List String}

theorem updateIgnoreList_of_missing (hlist : s.tree.locate list = .ok q)
    (hget : s.tree.get? q = none) : updateIgnoreList s list = s.done [] := by
  have hcontains : s.tree.contains list = false := by
    rw [Tree.contains, Tree.find?_of_locate hlist, hget]
    rfl
  rw [updateIgnoreList, hcontains]
  rfl

theorem updateIgnoreList_of_text {text : String} (hlist : s.tree.locate list = .ok q)
    (hget : s.tree.get? q = some (.text text)) :
    updateIgnoreList s list =
      if ignoresIndex text then s.done []
      else { s.done ["Added index/ to .gitignore"] with
        tree := s.tree.put q (.text (addIndexPattern text)) } := by
  have hfind : s.tree.find? list = some (.text text) := by rw [Tree.find?_of_locate hlist, hget]
  have hcontains : s.tree.contains list = true := by
    rw [Tree.contains, hfind]
    rfl
  have hread : s.tree.readText list = .ok text := Tree.readText_of_find? hfind
  have hwrite : s.tree.write list (.text (addIndexPattern text)) =
      .ok (s.tree.put q (.text (addIndexPattern text))) :=
    Tree.write_eq_ok_iff.mpr ⟨q, hlist, by simp [hget], rfl⟩
  rw [updateIgnoreList, hcontains, hread, ok_bind]
  by_cases h : ignoresIndex text = true
  · simp only [h, if_true]
    rfl
  · simp only [h, hwrite, Bool.not_true]
    rfl

end

/-! ## One start -/

/-- A directory, by its place, in which the settings file and the ignore list, where there are any,
are texts. -/
structure Startable (t : Tree) (dir : Path) (place : List String) : Prop where
  located : t.locate dir = .ok place
  directory : t.get? place = some .directory
  settings : ∀ e, t.get? (place ++ [".quarry.toml"]) = some e → ∃ text, e = .text text
  ignoreList : ∀ e, t.get? (place ++ [".gitignore"]) = some e → ∃ text, e = .text text

/-- What starting leaves of a tree: the settings file is new, the ignore list covers the index, and
nothing else has changed. -/
structure Leaves (t : Tree) (place : List String) (u : Tree) : Prop where
  settings : u.get? (place ++ [".quarry.toml"]) = some (.text Settings.template)
  ignoreList : ∀ text, t.get? (place ++ [".gitignore"]) = some (.text text) →
    u.get? (place ++ [".gitignore"]) = some (.text (covering text))
  missing : t.get? (place ++ [".gitignore"]) = none → u.get? (place ++ [".gitignore"]) = none
  others : ∀ q, q ≠ place ++ [".quarry.toml"] → q ≠ place ++ [".gitignore"] → u.get? q = t.get? q

variable {t u v : Tree} {dir : Path} {place : List String} {s : Setting}

theorem Startable.locate_settings (h : Startable t dir place) :
    t.locate (Settings.fileIn dir) = .ok (place ++ [".quarry.toml"]) :=
  Tree.locate_join h.located h.directory (by decide) (by decide) (by decide)

theorem Startable.locate_ignoreList (h : Startable t dir place) :
    t.locate (ignoreListIn dir) = .ok (place ++ [".gitignore"]) :=
  Tree.locate_join h.located h.directory (by decide) (by decide) (by decide)

/-- Nothing that starting leaves takes a directory away, so that one can start again. -/
theorem Startable.leaves (h : Startable t dir place) (hleaves : Leaves t place u) :
    Startable u dir place := by
  have hdirectories : ∀ q, t.get? q = some .directory → u.get? q = some .directory := by
    intro q hq
    rw [hleaves.others, hq]
    · rintro rfl
      obtain ⟨text, htext⟩ := h.settings _ hq
      cases htext
    · rintro rfl
      obtain ⟨text, htext⟩ := h.ignoreList _ hq
      cases htext
  refine ⟨Tree.locate_mono hdirectories h.located, hdirectories _ h.directory, fun e he => ?_,
    fun e he => ?_⟩
  · rw [hleaves.settings] at he
    exact ⟨_, (Option.some.inj he).symm⟩
  · cases hget : t.get? (place ++ [".gitignore"]) with
    | none =>
        rw [hleaves.missing hget] at he
        cases he
    | some old =>
        obtain ⟨text, rfl⟩ := h.ignoreList old hget
        rw [hleaves.ignoreList text hget] at he
        exact ⟨_, (Option.some.inj he).symm⟩

/-- Where starting is not refused, the settings file is written, then the ignore list looked at. -/
theorem Startable.start_eq (h : Startable s.tree s.dir place) {force : Bool}
    (hallowed : force = true ∨ s.tree.contains (Settings.fileIn s.dir) = false) :
    ∃ lines, s.start force =
      (updateIgnoreList
        { s with tree := s.tree.put (place ++ [".quarry.toml"]) (.text Settings.template) }
        (ignoreListIn s.dir)).after lines := by
  have hrefused : (s.tree.contains (Settings.fileIn s.dir) && !force) = false := by
    rcases hallowed with rfl | hnone
    · exact Bool.and_false _
    · rw [hnone, Bool.false_and]
  have hne : s.tree.get? (place ++ [".quarry.toml"]) ≠ some .directory := by
    intro hget
    obtain ⟨text, htext⟩ := h.settings _ hget
    cases htext
  have hwrite : s.tree.write (Settings.fileIn s.dir) (.text Settings.template) =
      .ok (s.tree.put (place ++ [".quarry.toml"]) (.text Settings.template)) :=
    Tree.write_eq_ok_iff.mpr ⟨_, h.locate_settings, hne, rfl⟩
  rw [Setting.start, hrefused, hwrite]
  exact ⟨_, rfl⟩

/-- The ignore list is found beside the settings file that was just written. -/
theorem Startable.locate_ignoreList_put (h : Startable t dir place) :
    (t.put (place ++ [".quarry.toml"]) (.text Settings.template)).locate (ignoreListIn dir) =
      .ok (place ++ [".gitignore"]) := by
  refine Tree.locate_mono (fun q hq => Tree.get?_put_directory (fun hget => ?_) hq)
    h.locate_ignoreList
  obtain ⟨text, htext⟩ := h.settings _ hget
  cases htext

theorem Startable.start (h : Startable s.tree s.dir place) {force : Bool}
    (hallowed : force = true ∨ s.tree.contains (Settings.fileIn s.dir) = false) :
    (s.start force).succeeds = true ∧ Leaves s.tree place (s.start force).tree := by
  obtain ⟨lines, hstart⟩ := h.start_eq hallowed
  have hlist := h.locate_ignoreList_put
  have hsettings : ∀ e,
      (s.tree.put (place ++ [".quarry.toml"]) e).get? (place ++ [".quarry.toml"]) = some e :=
    fun e => Tree.get?_put_self (by simp)
  have hget : ∀ e, (s.tree.put (place ++ [".quarry.toml"]) e).get? (place ++ [".gitignore"]) =
      s.tree.get? (place ++ [".gitignore"]) := fun e => Tree.get?_put_of_ne (by simp)
  cases hold : s.tree.get? (place ++ [".gitignore"]) with
  | none =>
      rw [hstart, updateIgnoreList_of_missing hlist ((hget _).trans hold)]
      refine ⟨rfl, hsettings _, fun text htext => ?_, fun _ => (hget _).trans hold,
        fun q hq _ => Tree.get?_put_of_ne hq⟩
      rw [hold] at htext
      cases htext
  | some e =>
      obtain ⟨text, rfl⟩ := h.ignoreList e hold
      rw [hstart, updateIgnoreList_of_text hlist ((hget _).trans hold)]
      by_cases hcovers : ignoresIndex text = true
      · rw [if_pos hcovers]
        refine ⟨rfl, hsettings _, fun other hother => ?_, fun hnone => ?_,
          fun q hq _ => Tree.get?_put_of_ne hq⟩
        · cases hold.symm.trans hother
          rw [covering, if_pos hcovers]
          exact (hget _).trans hold
        · cases hold.symm.trans hnone
      · rw [if_neg hcovers]
        refine ⟨rfl, ?_, fun other hother => ?_, fun hnone => ?_, fun q hq hq' => ?_⟩
        · exact (Tree.get?_put_of_ne (by simp)).trans (hsettings _)
        · cases hold.symm.trans hother
          rw [covering, if_neg hcovers]
          exact Tree.get?_put_self (by simp)
        · cases hold.symm.trans hnone
        · exact (Tree.get?_put_of_ne hq').trans (Tree.get?_put_of_ne hq)

/-! ## Starting again -/

/-- Starting a second time writes what is there. -/
theorem Leaves.again (h : Startable t dir place) (hfirst : Leaves t place u)
    (hagain : Leaves u place v) (q : List String) : v.get? q = u.get? q := by
  by_cases hsettings : q = place ++ [".quarry.toml"]
  · rw [hsettings, hagain.settings, hfirst.settings]
  by_cases hlist : q = place ++ [".gitignore"]
  · subst hlist
    cases hold : t.get? (place ++ [".gitignore"]) with
    | none =>
        have hmissing := hfirst.missing hold
        rw [hagain.missing hmissing, hmissing]
    | some e =>
        obtain ⟨text, rfl⟩ := h.ignoreList e hold
        have hcovering := hfirst.ignoreList text hold
        rw [hagain.ignoreList _ hcovering, hcovering, covering_covering]
  · exact hagain.others q hsettings hlist

theorem Leaves.congr (h : Leaves t place u) (hsame : ∀ q, v.get? q = u.get? q) : Leaves t place v :=
  ⟨(hsame _).trans h.settings, fun text htext => (hsame _).trans (h.ignoreList text htext),
    fun hnone => (hsame _).trans (h.missing hnone),
    fun q hq hq' => (hsame q).trans (h.others q hq hq')⟩

/-- The trees after any number of forced starts in a directory. -/
inductive Restarts (dir : Path) (t : Tree) : Tree → Prop where
  | none : Restarts dir t t
  | again {s : Setting} : s.dir = dir → Restarts dir t s.tree →
      Restarts dir t ((Request.init true).run s).tree

theorem Restarts.same (hrestarts : Restarts dir u v) (h : Startable t dir place)
    (hfirst : Leaves t place u) (q : List String) : v.get? q = u.get? q := by
  induction hrestarts generalizing q with
  | none => rfl
  | @again s hdir _ ih =>
      subst hdir
      have hbefore := hfirst.congr ih
      obtain ⟨_, hleaves⟩ := (h.leaves hbefore).start (.inl rfl)
      exact (hbefore.again h hleaves q).trans (ih q)

/-- What starting a catalogue in a directory does to a tree: it writes the settings file, adds to
the ignore list if there is one, and leaves the rest. -/
structure Started (t : Tree) (dir : Path) (u : Tree) : Prop where
  settings : u.find? (Settings.fileIn dir) = some (.text Settings.template)
  ignoreList : ∀ text, t.find? (ignoreListIn dir) = some (.text text) →
    ∃ added, AddedTo text added ∧ u.find? (ignoreListIn dir) = some (.text (text ++ added)) ∧
      CoversIndex (text ++ added)
  missing : t.find? (ignoreListIn dir) = none → u.find? (ignoreListIn dir) = none
  others : ∀ q, u.get? q ≠ t.get? q →
    t.locate (Settings.fileIn dir) = .ok q ∨ t.locate (ignoreListIn dir) = .ok q

theorem Leaves.started (h : Startable t dir place) (hleaves : Leaves t place u) :
    Started t dir u := by
  have hafter := h.leaves hleaves
  have hbefore : t.find? (ignoreListIn dir) = t.get? (place ++ [".gitignore"]) :=
    Tree.find?_of_locate h.locate_ignoreList
  have hlist : u.find? (ignoreListIn dir) = u.get? (place ++ [".gitignore"]) :=
    Tree.find?_of_locate hafter.locate_ignoreList
  refine ⟨(Tree.find?_of_locate hafter.locate_settings).trans hleaves.settings,
    fun text htext => ?_, fun hnone => ?_, fun q hq => ?_⟩
  · obtain ⟨added, hadded, hcovering, hcovers⟩ := covering_spec text
    refine ⟨added, hadded, ?_, hcovers⟩
    rw [hlist, hleaves.ignoreList text (hbefore.symm.trans htext), hcovering]
  · rw [hlist, hleaves.missing (hbefore.symm.trans hnone)]
  · by_cases hsettings : q = place ++ [".quarry.toml"]
    · exact .inl (hsettings ▸ h.locate_settings)
    · by_cases hlist : q = place ++ [".gitignore"]
      · exact .inr (hlist ▸ h.locate_ignoreList)
      · exact absurd (hleaves.others q hsettings hlist) hq

theorem exists_startable (hdir : t.isDirectory dir = true)
    (hsettings : ∀ e, t.find? (Settings.fileIn dir) = some e → ∃ text, e = .text text)
    (hlist : ∀ e, t.find? (ignoreListIn dir) = some e → ∃ text, e = .text text) :
    ∃ place, Startable t dir place := by
  obtain ⟨place, hplace, hget⟩ := Tree.isDirectory_iff.mp hdir
  have hname : ∀ {name : String}, '/' ∉ name.toList → Path.isIdle name.toList = false →
      name.toList ≠ ['.', '.'] → t.find? (dir.join ⟨name⟩) = t.get? (place ++ [name]) :=
    fun hslash hidle hup => Tree.find?_of_locate (Tree.locate_join hplace hget hslash hidle hup)
  refine ⟨place, hplace, hget, fun e he => hsettings e ?_, fun e he => hlist e ?_⟩
  · exact (hname (by decide) (by decide) (by decide)).trans he
  · exact (hname (by decide) (by decide) (by decide)).trans he

/-- Starting a catalogue is safe to repeat. Without force it leaves all files alone where there are
settings already. Otherwise it writes the settings file and adds to the ignore list what that lacks,
and however often it is forced after that, the files stay as they are. -/
theorem start_repeatable (hdir : s.tree.isDirectory s.dir = true)
    (hsettings : ∀ e, s.tree.find? (Settings.fileIn s.dir) = some e → ∃ text, e = .text text)
    (hlist : ∀ e, s.tree.find? (ignoreListIn s.dir) = some e → ∃ text, e = .text text) :
    (s.tree.contains (Settings.fileIn s.dir) = true →
      ((Request.init false).run s).succeeds = false ∧ ((Request.init false).run s).tree = s.tree) ∧
    ∀ force, force = true ∨ s.tree.contains (Settings.fileIn s.dir) = false →
      ((Request.init force).run s).succeeds = true ∧
      Started s.tree s.dir ((Request.init force).run s).tree ∧
      ∀ u, Restarts s.dir ((Request.init force).run s).tree u →
        ∀ q, u.get? q = ((Request.init force).run s).tree.get? q := by
  obtain ⟨place, h⟩ := exists_startable hdir hsettings hlist
  constructor
  · intro hcontains
    have hrefused : ∃ errors, (Request.init false).run s = s.fail errors := by
      change ∃ errors, s.start false = s.fail errors
      rw [Setting.start, hcontains]
      exact ⟨_, rfl⟩
    obtain ⟨errors, hfail⟩ := hrefused
    rw [hfail]
    exact ⟨rfl, rfl⟩
  · intro force hallowed
    obtain ⟨hsucceeds, hleaves⟩ := h.start hallowed
    exact ⟨hsucceeds, hleaves.started h, fun u hrestarts => hrestarts.same h hleaves⟩

def ignoringTarget : Setting :=
  ⟨⟨[(["work"], .directory), (["work", ".gitignore"], .text "target\r\n index.d")]⟩,
    ⟨"/work"⟩, none, "", ⟨fun _ word => word⟩⟩

/-- The index is added once, on a line of its own. -/
theorem start_repeatable_target :
    ignoringTarget.tree.isDirectory ignoringTarget.dir = true ∧
      ((Request.init false).run ignoringTarget).tree.find? (ignoreListIn ⟨"/work"⟩) =
        some (.text ("target\r\n index.d" ++ "\nindex/\n")) ∧
      ∀ q,
        ((Request.init true).run { ignoringTarget with
            tree := ((Request.init false).run ignoringTarget).tree }).tree.get? q =
          ((Request.init false).run ignoringTarget).tree.get? q := by
  have hdir : ignoringTarget.tree.isDirectory ignoringTarget.dir = true := by decide +kernel
  have hnone : ignoringTarget.tree.find? (Settings.fileIn ignoringTarget.dir) = none := by rfl
  have hlist : ignoringTarget.tree.find? (ignoreListIn ⟨"/work"⟩) =
      some (.text "target\r\n index.d") := by rfl
  have hcontains : ignoringTarget.tree.contains (Settings.fileIn ignoringTarget.dir) = false := by
    rw [Tree.contains, hnone]
    rfl
  obtain ⟨_, hstart⟩ := start_repeatable hdir (fun e he => by cases hnone.symm.trans he)
    fun e he => ⟨_, (Option.some.inj (hlist.symm.trans he)).symm⟩
  obtain ⟨_, hstarted, hsame⟩ := hstart false (.inr hcontains)
  refine ⟨hdir, ?_, hsame _ (.again rfl .none)⟩
  have hnot : ¬CoversIndex "target\r\n index.d" := by
    rw [← ignoresIndex_iff]
    decide +kernel
  obtain ⟨added, hadded, hfind, _⟩ := hstarted.ignoreList _ hlist
  cases hadded with
  | nothing hcovers => exact absurd hcovers hnot
  | line _ hended => exact absurd hended (by decide +kernel)
  | newlineAndLine => exact hfind

end Command

end Catalogue
