import Catalogue.Proofs.Files.Absolute
import Catalogue.Proofs.Files.Writing
import Mathlib.Data.List.Infix

/-! # The parts of an absolute path

An absolute path goes from the root through its names. Joining adds names at its end, and its parent
is what is left without the last one. So the directories above a path are those of its parts that
come first, and climbing from one to the next ends at the root. -/

namespace Catalogue

namespace Path

variable {p base dir : Path} {above : List Path}

/-- The names among pieces of a path. Idle pieces are no names. -/
def names (pieces : List (List Char)) : List String :=
  (pieces.filter fun piece => !isIdle piece).map String.ofList

theorem names_append (pieces more : List (List Char)) :
    names (pieces ++ more) = names pieces ++ names more := by
  rw [names, List.filter_append, List.map_append]
  rfl

theorem names_singleton {piece : List Char} (h : isIdle piece = false) :
    names [piece] = [String.ofList piece] := by
  simp [names, h]

theorem names_idle {piece : List Char} (h : isIdle piece = true) : names [piece] = [] := by
  simp [names, h]

theorem parts_of_isAbsolute (h : p.isAbsolute = true) :
    p.parts = "/" :: names (pieces p.text.toList).2 :=
  if_pos h

/-! ## Joining -/

/-- Joining adds the names of a relative path to those of an absolute directory. -/
theorem parts_join (hbase : base.isAbsolute = true) (hp : p.isAbsolute = false) :
    (base.join p).parts =
      base.parts ++ names ((pieces p.text.toList).1 :: (pieces p.text.toList).2) := by
  have hne : base.text ≠ "" := by
    rintro hempty
    simp [isAbsolute, hempty] at hbase
  have htext : names (pieces (base.join p).text.toList).2 =
      names (pieces base.text.toList).2 ++
        names ((pieces p.text.toList).1 :: (pieces p.text.toList).2) := by
    rw [join, hp]
    by_cases hslash : base.text.toList.getLast? = some '/'
    · -- The final slash leaves an idle piece behind, in whose place the names are put.
      obtain ⟨cs, hcs⟩ := List.getLast?_eq_some_iff.mp hslash
      have hidle : names [[]] = [] := names_idle rfl
      simp [hcs, pieces_append_slash, pieces, names_append, hidle]
    · simp [hslash, hne, pieces_append_slash, names_append]
  rw [parts_of_isAbsolute (isAbsolute_join hbase), parts_of_isAbsolute hbase, htext,
    List.cons_append]

theorem same_iff {p q : Path} : p.same q = true ↔ p.parts = q.parts := decide_eq_true_iff

theorem isBelow_iff : p.isBelow base = true ↔ base.parts <+: p.parts := by
  rw [isBelow, List.isPrefixOf_iff_prefix]

/-- A relative path leads to the directory that it is seen from or below it. -/
theorem isBelow_join (hbase : base.isAbsolute = true) (hp : p.isAbsolute = false) :
    (base.join p).isBelow base = true := by
  rw [isBelow_iff, parts_join hbase hp]
  exact List.prefix_append _ _

theorem parts_join_name {name : String} (hbase : base.isAbsolute = true)
    (hslash : '/' ∉ name.toList) (hname : isIdle name.toList = false) :
    (base.join ⟨name⟩).parts = base.parts ++ [name] := by
  rw [parts_join hbase (isAbsolute_of_noSlash hslash), pieces_of_noSlash hslash,
    names_singleton hname, String.ofList_toList]

/-! ## The directory above -/

theorem noSlash_of_mem_pieces {cs piece : List Char}
    (h : piece ∈ (pieces cs).1 :: (pieces cs).2) : '/' ∉ piece := by
  induction cs generalizing piece with
  | nil => simp_all [pieces]
  | cons c cs ih =>
      rw [pieces] at h
      by_cases hc : c = '/'
      · simp only [hc, if_true] at h
        rcases List.mem_cons.mp h with rfl | h
        · exact List.not_mem_nil
        · exact ih h
      · simp only [if_neg hc] at h
        rcases List.mem_cons.mp h with rfl | h
        · have hfirst := ih List.mem_cons_self
          simpa [Ne.symm hc] using hfirst
        · exact ih (List.mem_cons_of_mem _ h)

/-- Pieces are found again in their text. -/
theorem pieces_ofPieces {first : List Char} {rest : List (List Char)}
    (h : ∀ piece ∈ first :: rest, '/' ∉ piece) :
    pieces (ofPieces (first :: rest)) = (first, rest) := by
  induction rest generalizing first with
  | nil => exact pieces_of_noSlash (h first List.mem_cons_self)
  | cons second rest ih =>
      have hrest := ih fun piece hpiece => h piece (List.mem_cons_of_mem _ hpiece)
      rw [ofPieces, pieces_append_slash, hrest, pieces_of_noSlash (h first List.mem_cons_self)]
      · rfl
      · exact List.cons_ne_nil _ _

/-- Dropping idle pieces at the end drops no names. -/
theorem names_dropIdle (reversed : List (List Char)) :
    names (dropIdle reversed).reverse = names reversed.reverse := by
  induction reversed with
  | nil => rfl
  | cons piece rest ih =>
      rw [dropIdle, List.dropWhile_cons]
      by_cases hidle : isIdle piece = true
      · rw [if_pos hidle, List.reverse_cons, names_append, names_idle hidle, List.append_nil]
        exact ih
      · rw [if_neg hidle]

/-- The text of a parent has the names that were kept. -/
theorem parts_kept {kept : List (List Char)} (h : ∀ piece ∈ kept, '/' ∉ piece) :
    (⟨String.ofList (if kept = [] then ['/'] else ofPieces ([] :: kept))⟩ : Path).parts =
      "/" :: names kept := by
  cases kept with
  | nil => rfl
  | cons piece rest =>
      have hpieces : pieces (ofPieces ([] :: piece :: rest)) = ([], piece :: rest) := by
        refine pieces_ofPieces fun other hother => ?_
        rcases List.mem_cons.mp hother with rfl | hother
        · exact List.not_mem_nil
        · exact h other hother
      rw [if_neg (List.cons_ne_nil _ _), parts_of_isAbsolute, String.toList_ofList, hpieces]
      rw [isAbsolute, String.toList_ofList]
      rfl

/-- A path has one name more than its parent. -/
theorem parts_of_parent? (h : p.isAbsolute = true) (hdir : p.parent? = some dir) :
    ∃ name, p.parts = dir.parts ++ [name] := by
  obtain ⟨rest, hrest⟩ := pieces_of_isAbsolute h
  simp only [parent?, hrest, decide_true, Bool.true_and, decide_eq_true_eq] at hdir
  split at hdir
  · next last before heq =>
      cases hdir
      have hlast : isIdle last = false := by
        have hhead := List.head?_dropWhile_not isIdle rest.reverse
        rw [← dropIdle, heq] at hhead
        simpa using hhead
      have hkept : ∀ piece ∈ (dropIdle before).reverse, '/' ∉ piece := by
        intro piece hpiece
        have hbefore : piece ∈ before := by
          have hmem := List.mem_reverse.mp hpiece
          exact (List.dropWhile_sublist isIdle).mem hmem
        have hmem : piece ∈ rest.reverse := by
          refine (List.dropWhile_sublist isIdle).mem ?_
          rw [← dropIdle, heq]
          exact List.mem_cons_of_mem _ hbefore
        have hpieces : piece ∈ (pieces p.text.toList).1 :: (pieces p.text.toList).2 := by
          rw [hrest]
          exact List.mem_cons_of_mem _ (List.mem_reverse.mp hmem)
        exact noSlash_of_mem_pieces hpieces
      have hnames : names rest = names (dropIdle before).reverse ++ [String.ofList last] :=
        calc names rest = names (dropIdle rest.reverse).reverse := by
              rw [names_dropIdle, List.reverse_reverse]
          _ = names before.reverse ++ names [last] := by
              rw [heq, List.reverse_cons, names_append]
          _ = names (dropIdle before).reverse ++ [String.ofList last] := by
              rw [names_dropIdle, names_singleton hlast]
      refine ⟨String.ofList last, ?_⟩
      rw [parts_kept hkept, parts_of_isAbsolute h, hrest, hnames, List.cons_append]
  · cases hdir

/-- Only the root has no parent. -/
theorem parts_of_parent?_eq_none (h : p.isAbsolute = true) (hnone : p.parent? = none) :
    p.parts = ["/"] := by
  have hidle : (pieces p.text.toList).2.filter (fun piece => !isIdle piece) = [] := by
    rw [List.filter_eq_nil_iff]
    intro piece hpiece
    simp [isIdle_of_parent? h hnone piece hpiece]
  rw [parts_of_isAbsolute h, names, hidle, List.map_nil]

/-! ## Climbing -/

/-- The way from a path up to the root, directory by directory. -/
inductive Climbs : Path → List Path → Prop where
  | root {p : Path} (h : p.parent? = none) : Climbs p [p]
  | up {p dir : Path} {above : List Path} (h : p.parent? = some dir) (habove : Climbs dir above) :
      Climbs p (p :: above)

theorem climbs_climb {steps : Nat} (h : p.isAbsolute = true) (hsteps : p.parts.length ≤ steps + 1) :
    Climbs p (ancestors.climb steps p) := by
  induction steps generalizing p with
  | zero =>
      refine .root (Option.eq_none_iff_forall_ne_some.mpr fun dir hdir => ?_)
      obtain ⟨name, hparts⟩ := parts_of_parent? h hdir
      rw [hparts, List.length_append, parts_of_isAbsolute (parent?_isAbsolute h hdir)] at hsteps
      simp at hsteps
  | succ steps ih =>
      rw [ancestors.climb]
      cases hdir : p.parent? with
      | none => exact .root hdir
      | some dir =>
          obtain ⟨name, hparts⟩ := parts_of_parent? h hdir
          rw [hparts, List.length_append, List.length_singleton] at hsteps
          exact .up hdir (ih (parent?_isAbsolute h hdir) (by omega))

theorem length_pieces_le (cs : List Char) : (pieces cs).2.length ≤ cs.length := by
  induction cs with
  | nil => exact Nat.le_refl 0
  | cons c cs ih =>
      rw [pieces]
      by_cases hc : c = '/'
      · simpa [hc] using ih
      · simp only [if_neg hc, List.length_cons]
        omega

/-- A text is long enough to climb all its names. -/
theorem climbs_ancestors (h : p.isAbsolute = true) : Climbs p p.ancestors := by
  refine climbs_climb h ?_
  have hpieces := length_pieces_le p.text.toList
  have hnames := List.length_filter_le (fun piece => !isIdle piece) (pieces p.text.toList).2
  rw [parts_of_isAbsolute h, List.length_cons, names, List.length_map]
  rw [String.length_toList] at hpieces
  omega

/-- The directories on the way up are those of the first parts of the path, and the last of them is
the root. -/
theorem Climbs.map_parts (hclimbs : Climbs p above) (h : p.isAbsolute = true) :
    above.map parts = p.parts.inits.tail.reverse := by
  induction hclimbs with
  | root hnone =>
      rw [List.map_singleton, parts_of_parent?_eq_none h hnone]
      rfl
  | @up p dir above hdir _ ih =>
      obtain ⟨name, hparts⟩ := parts_of_parent? h hdir
      rw [List.map_cons, ih (parent?_isAbsolute h hdir), hparts, List.inits_append,
        List.tail_append_of_ne_nil (by cases dir.parts <;> simp), List.reverse_append]
      rfl

theorem Climbs.isAbsolute (hclimbs : Climbs p above) (h : p.isAbsolute = true) :
    ∀ q ∈ above, q.isAbsolute = true := by
  induction hclimbs with
  | root _ => simpa using h
  | up hdir _ ih => exact List.forall_mem_cons.mpr ⟨h, ih (parent?_isAbsolute h hdir)⟩

theorem Climbs.isBelow (hclimbs : Climbs p above) (h : p.isAbsolute = true) :
    ∀ q ∈ above, p.isBelow q = true := by
  intro q hq
  have hmem : q.parts ∈ p.parts.inits.tail.reverse := by
    rw [← hclimbs.map_parts h]
    exact List.mem_map_of_mem hq
  rw [isBelow_iff, ← List.mem_inits]
  exact List.mem_of_mem_tail (List.mem_reverse.mp hmem)

/-- Every step up leaves a name behind. -/
theorem Climbs.shortening (hclimbs : Climbs p above) (h : p.isAbsolute = true) :
    above.Pairwise fun q r => r.parts.length < q.parts.length := by
  induction hclimbs with
  | root _ => exact List.pairwise_singleton _ _
  | @up p dir above hdir habove ih =>
      have habsolute := parent?_isAbsolute h hdir
      refine List.pairwise_cons.mpr ⟨fun q hq => ?_, ih habsolute⟩
      obtain ⟨name, hparts⟩ := parts_of_parent? h hdir
      have hle := (isBelow_iff.mp (habove.isBelow habsolute q hq)).length_le
      rw [hparts, List.length_append, List.length_singleton]
      omega

end Path

/-! ## Where absolute paths lead -/

namespace Tree

variable {t : Tree} {p : Path} {place q : List String}

/-- Steps that never go back up lead to their names. -/
theorem walk_names {steps : List (List Char)} (h : ['.', '.'] ∉ steps)
    (hwalk : t.walk place steps = .ok q) : q = place ++ Path.names steps := by
  induction steps generalizing place with
  | nil =>
      cases hwalk
      exact (List.append_nil _).symm
  | cons step steps ih =>
      obtain ⟨hstep, hsteps⟩ := not_or.mp (mt List.mem_cons.mpr h)
      rw [walk] at hwalk
      obtain ⟨_, _, hwalk⟩ := bind_eq_ok_iff.mp hwalk
      rw [← List.singleton_append, Path.names_append]
      by_cases hidle : Path.isIdle step = true
      · rw [if_pos hidle] at hwalk
        rw [ih hsteps hwalk, Path.names_idle hidle, List.nil_append]
      · rw [if_neg hidle, if_neg (Ne.symm hstep)] at hwalk
        rw [ih hsteps hwalk, Path.names_singleton (Bool.not_eq_true _ ▸ hidle), List.append_assoc]

/-- A path that never goes back up leads to the place that its parts say. -/
theorem parts_of_locate (h : p.isAbsolute = true) (hup : ".." ∉ p.parts)
    (hplace : t.locate p = .ok place) : p.parts = "/" :: place := by
  have hsteps : ['.', '.'] ∉ (Path.pieces p.text.toList).2 := by
    intro hmem
    refine hup ?_
    rw [Path.parts_of_isAbsolute h]
    have hname : ".." ∈ Path.names (Path.pieces p.text.toList).2 :=
      List.mem_map.mpr ⟨['.', '.'], List.mem_filter.mpr ⟨hmem, rfl⟩, rfl⟩
    exact List.mem_cons_of_mem _ hname
  obtain ⟨_, hwalk⟩ := locate_eq_ok_iff.mp hplace
  rw [Path.parts_of_isAbsolute h, walk_names hsteps hwalk, List.nil_append]

end Tree

end Catalogue
