import Catalogue.Files.Tree
import Catalogue.Proofs.Outcome

/-! # What writing leaves in place

Steps go from directory to directory, and nothing that is written takes a directory away. So a place
that was reached before is reached after, and a directory that is there need not be made. -/

namespace Catalogue

namespace Path

theorem pieces_append_slash (cs ds : List Char) :
    pieces (cs ++ '/' :: ds) =
      ((pieces cs).1, (pieces cs).2 ++ (pieces ds).1 :: (pieces ds).2) := by
  induction cs with
  | nil => simp [pieces]
  | cons c cs ih =>
      rw [List.cons_append, pieces, ih, pieces]
      by_cases hc : c = '/'
      · simp [hc]
      · simp [hc]

theorem pieces_of_noSlash {cs : List Char} (h : '/' ∉ cs) : pieces cs = (cs, []) := by
  induction cs with
  | nil => rfl
  | cons c cs ih =>
      simp only [List.mem_cons, not_or] at h
      rw [pieces, ih h.2]
      simp [Ne.symm h.1]

theorem isAbsolute_of_noSlash {name : String} (h : '/' ∉ name.toList) :
    isAbsolute ⟨name⟩ = false := by
  rw [isAbsolute, decide_eq_false_iff_not, List.head?_eq_some_iff]
  rintro ⟨cs, hcs⟩
  exact h (hcs ▸ List.mem_cons_self)

/-- The steps to a name in a directory are those to the directory, which may end with an empty one
instead of the name. -/
theorem pieces_join {dir : Path} {name : String} (hdir : dir.text ≠ "")
    (hname : '/' ∉ name.toList) :
    ∃ steps, (pieces (dir.join ⟨name⟩).text.toList).2 = steps ++ [name.toList] ∧
      ((pieces dir.text.toList).2 = steps ∨ (pieces dir.text.toList).2 = steps ++ [[]]) := by
  rw [join, isAbsolute_of_noSlash hname]
  by_cases hslash : dir.text.toList.getLast? = some '/'
  · obtain ⟨cs, hcs⟩ := List.getLast?_eq_some_iff.mp hslash
    refine ⟨(pieces cs).2, ?_, .inr ?_⟩
    · simp [hcs, pieces_append_slash, pieces_of_noSlash hname]
    · simp [hcs, pieces_append_slash, pieces]
  · refine ⟨(pieces dir.text.toList).2, ?_, .inl rfl⟩
    simp [hslash, hdir, pieces_append_slash, pieces_of_noSlash hname]

end Path

namespace Tree

variable {t u : Tree} {p : Path} {e : Entry} {place q : List String} {steps : List (List Char)}

/-! ## Places -/

@[simp]
theorem get?_root : t.get? [] = some .directory := if_pos rfl

theorem get?_put_self (h : place ≠ []) : (t.put place e).get? place = some e := by
  simp [get?, put, h]

theorem get?_put_of_ne (h : q ≠ place) : (t.put place e).get? q = t.get? q := by
  have hlookup : ∀ entries : List (List String × Entry),
      (entries.filter fun entry => entry.1 ≠ place).lookup q = entries.lookup q := by
    intro entries
    induction entries with
    | nil => rfl
    | cons entry rest ih =>
        by_cases hentry : entry.1 = place
        · have hne : (q == entry.1) = false := by simpa [hentry] using h
          rw [List.filter_cons_of_neg (by simp [hentry]), ih, List.lookup_cons, hne]
        · rw [List.filter_cons_of_pos (by simpa using hentry), List.lookup_cons, List.lookup_cons,
            ih]
  have hne : (q == place) = false := by simpa using h
  simp only [get?, put, List.lookup_cons, hne, hlookup]

/-- Putting something where there is no directory keeps all directories. -/
theorem get?_put_directory (h : t.get? place ≠ some .directory)
    (hq : t.get? q = some .directory) : (t.put place e).get? q = some .directory := by
  have hne : q ≠ place := by
    rintro rfl
    exact h hq
  rw [get?_put_of_ne hne, hq]

theorem checkDirectory_eq_ok_iff : t.checkDirectory place = .ok () ↔
    t.get? place = some .directory := by
  unfold checkDirectory
  split
  · simp [*]
  · rename_i e hne he
    rw [he]
    simpa using hne
  · simp [*]

/-! ## Steps -/

theorem walk_append (steps more : List (List Char)) :
    t.walk place (steps ++ more) = t.walk place steps >>= fun q => t.walk q more := by
  induction steps generalizing place with
  | nil => rfl
  | cons step steps ih =>
      rw [List.cons_append, walk, walk]
      cases t.checkDirectory place with
      | error e => rfl
      | ok _ =>
          simp only [ok_bind]
          split
          · exact ih
          · split
            · exact ih
            · exact ih

/-- A walk that succeeds is the same in a tree that has these directories too. -/
theorem walk_mono (h : ∀ q, t.get? q = some .directory → u.get? q = some .directory)
    (hwalk : t.walk place steps = .ok q) : u.walk place steps = .ok q := by
  induction steps generalizing place with
  | nil => exact hwalk
  | cons step steps ih =>
      rw [walk] at hwalk ⊢
      obtain ⟨_, hcheck, hwalk⟩ := bind_eq_ok_iff.mp hwalk
      rw [checkDirectory_eq_ok_iff.mpr (h place (checkDirectory_eq_ok_iff.mp hcheck)), ok_bind]
      by_cases hidle : Path.isIdle step = true
      · rw [if_pos hidle] at hwalk ⊢
        exact ih hwalk
      · rw [if_neg hidle] at hwalk ⊢
        by_cases hup : step = ['.', '.']
        · rw [if_pos hup] at hwalk ⊢
          exact ih hwalk
        · rw [if_neg hup] at hwalk ⊢
          exact ih hwalk

theorem walk_empties {empties : List (List Char)} (h : ∀ step ∈ empties, step = [])
    (hwalk : t.walk place empties = .ok q) : q = place := by
  induction empties with
  | nil => exact (Except.ok.inj hwalk).symm
  | cons step rest ih =>
      obtain ⟨hstep, hrest⟩ := List.forall_mem_cons.mp h
      rw [walk] at hwalk
      obtain ⟨_, _, hwalk⟩ := bind_eq_ok_iff.mp hwalk
      exact ih hrest (by simpa [hstep, Path.isIdle] using hwalk)

theorem locate_eq_ok_iff : t.locate p = .ok place ↔
    p.text ≠ "" ∧ t.walk [] (Path.pieces p.text.toList).2 = .ok place := by
  unfold locate
  split <;> simp [*]

theorem find?_of_locate (h : t.locate p = .ok place) : t.find? p = t.get? place := by
  rw [find?, h]

theorem find?_eq_some_iff : t.find? p = some e ↔
    ∃ place, t.locate p = .ok place ∧ t.get? place = some e := by
  unfold find?
  cases t.locate p <;> simp

theorem readText_of_find? (h : t.find? p = some e) :
    t.readText p = e.text? := by
  obtain ⟨place, hplace, hget⟩ := find?_eq_some_iff.mp h
  rw [readText, hplace, ok_bind, hget]

theorem locate_mono (h : ∀ q, t.get? q = some .directory → u.get? q = some .directory)
    (hplace : t.locate p = .ok place) : u.locate p = .ok place := by
  obtain ⟨hne, hwalk⟩ := locate_eq_ok_iff.mp hplace
  exact locate_eq_ok_iff.mpr ⟨hne, walk_mono h hwalk⟩

/-! ## Writing -/

theorem write_eq_ok_iff : t.write p e = .ok u ↔
    ∃ place, t.locate p = .ok place ∧ t.get? place ≠ some .directory ∧ u = t.put place e := by
  unfold write
  rw [bind_eq_ok_iff]
  refine exists_congr fun place => and_congr_right fun _ => ?_
  split
  · simp [*]
  · rename_i hne
    constructor
    · rintro hu
      cases hu
      exact ⟨hne, rfl⟩
    · rintro ⟨_, rfl⟩
      rfl

/-- What was written is found. -/
theorem find?_write (h : t.write p e = .ok u) : u.find? p = some e := by
  obtain ⟨place, hplace, hne, rfl⟩ := write_eq_ok_iff.mp h
  have hroot : place ≠ [] := by
    rintro rfl
    exact hne get?_root
  have hlocate : (t.put place e).locate p = .ok place :=
    locate_mono (fun q hq => get?_put_directory hne hq) hplace
  exact (find?_of_locate hlocate).trans (get?_put_self hroot)

/-- A file can be written in the place of another one. -/
theorem exists_write_of_find? {old : Entry} (h : t.find? p = some old)
    (hfile : old ≠ .directory) (e : Entry) : ∃ u, t.write p e = .ok u := by
  obtain ⟨place, hplace, hget⟩ := find?_eq_some_iff.mp h
  refine ⟨t.put place e, write_eq_ok_iff.mpr ⟨place, hplace, ?_, rfl⟩⟩
  rintro hdirectory
  exact hfile (Option.some.inj (hget.symm.trans hdirectory))

/-! ## Directories that are there -/

theorem isDirectory_iff : t.isDirectory p = true ↔
    ∃ place, t.locate p = .ok place ∧ t.get? place = some .directory := by
  unfold isDirectory find?
  cases t.locate p with
  | error reason => simp
  | ok place =>
      cases hget : t.get? place with
      | none => simp [hget]
      | some e => cases e <;> simp [hget, Entry.isDirectory]

theorem makeDirectory_of_isDirectory (h : t.isDirectory p = true) :
    t.makeDirectory p = .error .occupied := by
  obtain ⟨place, hplace, hget⟩ := isDirectory_iff.mp h
  obtain ⟨_, hwalk⟩ := locate_eq_ok_iff.mp hplace
  have hsplit := List.takeWhile_append_dropWhile (p := List.isEmpty)
    (l := (Path.pieces p.text.toList).2.reverse)
  -- Empty steps at the end are left out, which lead nowhere.
  have hsteps : (Path.pieces p.text.toList).2 =
      ((Path.pieces p.text.toList).2.reverse.dropWhile List.isEmpty).reverse ++
        ((Path.pieces p.text.toList).2.reverse.takeWhile List.isEmpty).reverse := by
    rw [← List.reverse_append, hsplit, List.reverse_reverse]
  rw [hsteps, walk_append] at hwalk
  obtain ⟨q, hq, hempties⟩ := bind_eq_ok_iff.mp hwalk
  have hempty : ∀ step ∈ ((Path.pieces p.text.toList).2.reverse.takeWhile List.isEmpty).reverse,
      step = [] := by
    intro step hstep
    exact List.isEmpty_iff.mp (List.all_eq_true.mp List.all_takeWhile step
      (List.mem_reverse.mp hstep))
  cases walk_empties hempty hempties
  rw [makeDirectory, hq, ok_bind, hget]

theorem ensureDirectories_of_isDirectory (h : t.isDirectory p = true) :
    t.ensureDirectories p = .ok t := by
  have hensure : t.ensureDirectory p = .ok t := by
    rw [ensureDirectory, makeDirectory_of_isDirectory h]
    exact if_pos h
  unfold ensureDirectories
  cases p.text.length with
  | zero => exact hensure
  | succ levels =>
      rw [makeDirectories, makeDirectory_of_isDirectory h]
      exact hensure

/-- A name in a directory leads to the place of that name there. -/
theorem locate_join {dir : Path} {name : String} (hplace : t.locate dir = .ok place)
    (hget : t.get? place = some .directory) (hslash : '/' ∉ name.toList)
    (hidle : Path.isIdle name.toList = false) (hup : name.toList ≠ ['.', '.']) :
    t.locate (dir.join ⟨name⟩) = .ok (place ++ [name]) := by
  obtain ⟨hdir, hdirWalk⟩ := locate_eq_ok_iff.mp hplace
  obtain ⟨steps, hsteps, hdirSteps⟩ := Path.pieces_join hdir hslash
  have hwalk : t.walk [] steps = .ok place := by
    rcases hdirSteps with hsame | hempty
    · rw [← hsame, hdirWalk]
    · rw [hempty, walk_append] at hdirWalk
      obtain ⟨q, hq, hlast⟩ := bind_eq_ok_iff.mp hdirWalk
      rw [hq, walk_empties (by simp) hlast]
  have hname : t.walk place [name.toList] = .ok (place ++ [name]) := by
    rw [walk, checkDirectory_eq_ok_iff.mpr hget, ok_bind, hidle, if_neg Bool.false_ne_true,
      if_neg hup, String.ofList_toList]
    rfl
  have hne : (dir.join ⟨name⟩).text ≠ "" := by
    intro hempty
    simp [hempty, Path.pieces] at hsteps
  refine locate_eq_ok_iff.mpr ⟨hne, ?_⟩
  rw [hsteps, walk_append, hwalk, ok_bind, hname]

/-- What holds something is a directory. -/
theorem isDirectory_of_contains {dir : Path} {name : String} (hdir : dir.text ≠ "")
    (hname : '/' ∉ name.toList) (h : t.contains (dir.join ⟨name⟩) = true) :
    t.isDirectory dir = true := by
  obtain ⟨steps, hsteps, hdirSteps⟩ := Path.pieces_join hdir hname
  obtain ⟨e, he⟩ := Option.isSome_iff_exists.mp h
  obtain ⟨place, hplace, _⟩ := find?_eq_some_iff.mp he
  obtain ⟨_, hwalk⟩ := locate_eq_ok_iff.mp hplace
  rw [hsteps, walk_append] at hwalk
  obtain ⟨q, hq, hlast⟩ := bind_eq_ok_iff.mp hwalk
  rw [walk] at hlast
  obtain ⟨_, hcheck, _⟩ := bind_eq_ok_iff.mp hlast
  have hget := checkDirectory_eq_ok_iff.mp hcheck
  refine isDirectory_iff.mpr ⟨q, locate_eq_ok_iff.mpr ⟨hdir, ?_⟩, hget⟩
  rcases hdirSteps with hsame | hslash
  · rw [hsame, hq]
  · rw [hslash, walk_append, hq, ok_bind, walk, checkDirectory_eq_ok_iff.mpr hget]
    rfl

end Tree

end Catalogue
