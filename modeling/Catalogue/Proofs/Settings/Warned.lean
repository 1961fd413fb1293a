import Catalogue.Proofs.Score.Reachable
import Mathlib.Algebra.BigOperators.Group.Finset.Piecewise
import Mathlib.Algebra.GroupWithZero.Nat
import Mathlib.Algebra.Order.BigOperators.Group.Finset

/-! # Which warnings settings get

Settings get their warnings whatever the bindings are, which may go round in circles, share a name
or read names that nothing is bound to. The names that the score leads to are looked for round by
round, and the rounds come to an end in whatever order pending names are taken. -/

namespace Catalogue

namespace ScoringSettings

open Relation

variable {s : ScoringSettings} {entry name input : String} {unseen reached pending : List String}

/-! ## What a name reads -/

/-- What is declared, leaves first: names, and what they read. -/
def declarations (s : ScoringSettings) : List (String × List String) :=
  s.leaf.map (fun b => (b.name, [])) ++ s.derived.map fun b => (b.name, b.inputs)

/-- The last declaration of a name reads another name. -/
def LastReads (s : ScoringSettings) (name input : String) : Prop :=
  ∃ before inputs after, s.declarations = before ++ (name, inputs) :: after ∧
    (∀ d ∈ after, d.1 ≠ name) ∧ input ∈ inputs

theorem lookup_map_inputs (name : String) (derived : List DerivedBinding) :
    (derived.map fun b => (b.name, b.inputs)).lookup name =
      (derived.find? fun b => b.name = name).map DerivedBinding.inputs := by
  induction derived with
  | nil => rfl
  | cons b rest ih =>
      rw [List.map_cons, List.lookup_cons, List.find?_cons, ih]
      by_cases hname : b.name = name
      · simp [hname]
      · have hne : (name == b.name) = false := by simpa using Ne.symm hname
        simp [hname, hne]

theorem lookup_map_leaf (name : String) (leaf : List LeafBinding) :
    ((leaf.map fun b => (b.name, ([] : List String))).lookup name).getD [] = [] := by
  induction leaf with
  | nil => rfl
  | cons b rest ih =>
      rw [List.map_cons, List.lookup_cons]
      split
      · rfl
      · exact ih

/-- The inputs of a name are those of its last declaration. -/
theorem inputs_eq_lookup (s : ScoringSettings) (name : String) :
    s.inputs name = (s.declarations.reverse.lookup name).getD [] := by
  rw [declarations, List.reverse_append, List.lookup_append, ← List.map_reverse, ← List.map_reverse,
    lookup_map_inputs, inputs]
  cases s.derived.reverse.find? fun b => b.name = name with
  | none => exact (lookup_map_leaf name s.leaf.reverse).symm
  | some b => rfl

theorem reads_iff_lastReads : s.Reads name input ↔ s.LastReads name input := by
  unfold Reads LastReads
  rw [inputs_eq_lookup]
  constructor
  · intro h
    cases hlast : s.declarations.reverse.lookup name with
    | none =>
        rw [hlast] at h
        cases h
    | some inputs =>
        rw [hlast] at h
        obtain ⟨after, before, hsplit, hafter⟩ := List.lookup_eq_some_iff.mp hlast
        refine ⟨before.reverse, inputs, after.reverse, ?_, fun d hd => ?_, h⟩
        · have hreverse := congrArg List.reverse hsplit
          simpa using hreverse
        · have hne := hafter d (List.mem_reverse.mp hd)
          exact fun heq => by simp [heq] at hne
  · rintro ⟨before, inputs, after, hsplit, hafter, h⟩
    have hlast : s.declarations.reverse.lookup name = some inputs := by
      refine List.lookup_eq_some_iff.mpr ⟨after.reverse, before.reverse, ?_, fun d hd => ?_⟩
      · simp [hsplit]
      · simpa using (hafter d (List.mem_reverse.mp hd)).symm
    rwa [hlast]

/-! ## The search, round by round -/

/-- A search under way: the names that were reached, and those still to be looked at. -/
structure Visit where
  reached : List String
  pending : List String

/-- One round: a pending name is taken. What it reads is pending then, unless the name was reached
before. -/
inductive Round (s : ScoringSettings) : Visit → Visit → Prop where
  | skip {reached before after : List String} {name : String} (h : name ∈ reached) :
      Round s ⟨reached, before ++ name :: after⟩ ⟨reached, before ++ after⟩
  | meet {reached before after : List String} {name : String} (h : name ∉ reached) :
      Round s ⟨reached, before ++ name :: after⟩ ⟨name :: reached, before ++ s.inputs name ++ after⟩

inductive Rounds (s : ScoringSettings) : Nat → Visit → Visit → Prop where
  | none (v : Visit) : Rounds s 0 v v
  | more {n : Nat} {v w x : Visit} (h : s.Round v w) (hmore : Rounds s n w x) : Rounds s (n + 1) v x

variable {v w : Visit} {n : Nat}

theorem Round.skip_first (h : name ∈ reached) :
    s.Round ⟨reached, name :: pending⟩ ⟨reached, pending⟩ :=
  @Round.skip s reached [] pending name h

theorem Round.meet_first (h : name ∉ reached) :
    s.Round ⟨reached, name :: pending⟩ ⟨name :: reached, s.inputs name ++ pending⟩ :=
  @Round.meet s reached [] pending name h

/-- As long as a name is pending, there is another round. -/
theorem exists_round (h : v.pending ≠ []) : ∃ w, s.Round v w := by
  obtain ⟨reached, _ | ⟨name, rest⟩⟩ := v
  · exact absurd rfl h
  · by_cases hname : name ∈ reached
    · exact ⟨_, .skip_first hname⟩
    · exact ⟨_, .meet_first hname⟩

/-! ### The rounds come to an end -/

/-- How many rounds are left: one for each pending name, and one for each input of the names that
were not reached yet. -/
def left (s : ScoringSettings) (v : Visit) : Nat :=
  v.pending.length +
    ∑ name ∈ (s.derived.map DerivedBinding.name).toFinset with name ∉ v.reached,
      (s.inputs name).length

theorem inputs_of_not_derived (h : name ∉ s.derived.map DerivedBinding.name) :
    s.inputs name = [] := by
  have hnone : (s.derived.reverse.find? fun b => b.name = name) = none := by
    simp only [List.find?_eq_none, List.mem_reverse, decide_eq_true_eq]
    exact fun b hb hname => h (List.mem_map.mpr ⟨b, hb, hname⟩)
  rw [inputs, hnone]
  rfl

/-- Reaching a name takes its inputs out of the count. -/
theorem sum_unreached (h : name ∉ reached) :
    ∑ x ∈ (s.derived.map DerivedBinding.name).toFinset with x ∉ reached, (s.inputs x).length =
      (s.inputs name).length +
        ∑ x ∈ (s.derived.map DerivedBinding.name).toFinset with x ∉ name :: reached,
          (s.inputs x).length := by
  have herase : ((s.derived.map DerivedBinding.name).toFinset.filter fun x => x ∉ name :: reached) =
      ((s.derived.map DerivedBinding.name).toFinset.filter fun x => x ∉ reached).erase name := by
    ext x
    simp only [Finset.mem_filter, Finset.mem_erase, List.mem_cons, not_or]
    tauto
  rw [herase]
  by_cases hname : name ∈ s.derived.map DerivedBinding.name
  · refine (Finset.add_sum_erase _ _ ?_).symm
    exact Finset.mem_filter.mpr ⟨List.mem_toFinset.mpr hname, h⟩
  · rw [inputs_of_not_derived hname, List.length_nil, Nat.zero_add, Finset.erase_eq_of_notMem]
    exact fun hmem => hname (List.mem_toFinset.mp (Finset.mem_filter.mp hmem).1)

theorem Round.left_eq (h : s.Round v w) : s.left v = s.left w + 1 := by
  cases h with
  | skip h =>
      simp only [left, List.length_append, List.length_cons]
      omega
  | meet h =>
      simp only [left, sum_unreached h, List.length_append, List.length_cons]
      omega

theorem Rounds.left_eq (h : s.Rounds n v w) : s.left v = s.left w + n := by
  induction h with
  | none v => rfl
  | more h _ ih =>
      rw [h.left_eq, ih]
      omega

/-- Names that are counted once have no more inputs than there are in all bindings. -/
theorem sum_find?_inputs_le (names : Finset String) (derived : List DerivedBinding) :
    ∑ name ∈ names,
        (((derived.find? fun b => b.name = name).map DerivedBinding.inputs).getD []).length ≤
      (derived.map fun b => b.inputs.length).sum := by
  induction derived with
  | nil => simp
  | cons b rest ih =>
      have hsplit : ∀ name ∈ names,
          ((((b :: rest).find? fun b => b.name = name).map DerivedBinding.inputs).getD []).length ≤
            (if b.name = name then b.inputs.length else 0) +
              (((rest.find? fun b => b.name = name).map DerivedBinding.inputs).getD []).length := by
        intro name _
        by_cases hname : b.name = name <;> simp [hname]
      refine (Finset.sum_le_sum hsplit).trans ?_
      rw [Finset.sum_add_distrib, List.map_cons, List.sum_cons, Finset.sum_ite_eq]
      refine Nat.add_le_add ?_ ih
      split <;> simp

theorem left_start_le (s : ScoringSettings) (entry : String) :
    s.left ⟨[], [entry]⟩ ≤ 1 + (s.derived.map fun b => b.inputs.length).sum := by
  have hsum := sum_find?_inputs_le
    ((s.derived.map DerivedBinding.name).toFinset.filter fun name => name ∉ ([] : List String))
    s.derived.reverse
  rw [List.map_reverse, List.sum_reverse] at hsum
  exact Nat.add_le_add_left hsum 1

/-! ### What the rounds reach -/

/-- The frontier does not depend on the order of pending names, nor on which names that were not
reached count as not met. -/
theorem Frontier.congr {unseen' pending' : List String}
    (h : s.Frontier entry unseen reached pending)
    (hknown : ∀ name ∈ entry :: s.mentioned, name ∈ unseen' ∨ name ∈ reached)
    (hpending : ∀ name, name ∈ pending' ↔ name ∈ pending) :
    s.Frontier entry unseen' reached pending' where
  known := hknown
  mentioned name hname := h.mentioned name ((hpending name).mp hname)
  begun := h.begun.imp_right (hpending entry).mpr
  ledTo name hname := h.ledTo name (hname.imp_right (hpending name).mp)
  onward name hname input hinput :=
    (h.onward name hname input hinput).imp_right (hpending input).mpr

/-- A round keeps the frontier. -/
theorem Frontier.round (h : s.Frontier entry unseen v.reached v.pending) (hround : s.Round v w) :
    ∃ unseen', s.Frontier entry unseen' w.reached w.pending := by
  let unmet := (entry :: s.mentioned).filter fun name => name ∉ v.reached
  have hknown : ∀ name ∈ entry :: s.mentioned, name ∈ unmet ∨ name ∈ v.reached := by
    intro name hname
    by_cases hreached : name ∈ v.reached
    · exact .inr hreached
    · exact .inl (List.mem_filter.mpr ⟨hname, by simpa using hreached⟩)
  cases hround with
  | @skip reached before after name hname =>
      have hfront : s.Frontier entry unmet reached (name :: (before ++ after)) :=
        h.congr hknown fun x => by simp [or_left_comm]
      exact ⟨unmet, hfront.skip fun hmem => by simpa [hname] using (List.mem_filter.mp hmem).2⟩
  | @meet reached before after name hname =>
      have hfront : s.Frontier entry unmet reached (name :: (before ++ after)) :=
        h.congr hknown fun x => by simp [or_left_comm]
      have hmet := hfront.meet
      exact ⟨_, hmet.congr hmet.known fun x => by simp [or_left_comm]⟩

theorem Frontier.rounds (h : s.Frontier entry unseen v.reached v.pending)
    (hrounds : s.Rounds n v w) : ∃ unseen', s.Frontier entry unseen' w.reached w.pending := by
  induction hrounds generalizing unseen with
  | none v => exact ⟨unseen, h⟩
  | more hround _ ih =>
      obtain ⟨unseen', h'⟩ := h.round hround
      exact ih h'

/-- When nothing is pending any more, the names that were reached are those that the first one leads
to. -/
theorem Rounds.mem_reached_iff (h : s.Rounds n ⟨[], [entry]⟩ w) (hdone : w.pending = []) :
    name ∈ w.reached ↔ ReflTransGen s.Reads entry name := by
  let start : Visit := ⟨[], [entry]⟩
  have hstart : s.Frontier entry (entry :: s.mentioned).eraseDups start.reached start.pending :=
    Frontier.start s entry
  obtain ⟨unseen, hfront⟩ := hstart.rounds h
  rw [hdone] at hfront
  have hiff : name ∈ s.follow unseen w.reached [] ↔ ReflTransGen s.Reads entry name :=
    hfront.mem_follow_iff
  rwa [follow] at hiff

/-- Following names goes through the rounds until nothing is pending, provided that names which were
not met yet are kept apart from those that were reached. -/
theorem Frontier.follow_rounds (h : s.Frontier entry unseen reached pending) (hnodup : unseen.Nodup)
    (hapart : ∀ name ∈ unseen, name ∉ reached) :
    ∃ n, s.Rounds n ⟨reached, pending⟩ ⟨s.follow unseen reached pending, []⟩ := by
  fun_induction follow with
  | case1 unseen reached => exact ⟨0, .none _⟩
  | case2 unseen reached next rest hnext ih =>
      have hapart' : ∀ name ∈ unseen.erase next, name ∉ next :: reached := by
        intro name hname hmem
        obtain ⟨hne, hunseen⟩ := hnodup.mem_erase_iff.mp hname
        rcases List.mem_cons.mp hmem with heq | hmem
        · exact hne heq
        · exact hapart name hunseen hmem
      obtain ⟨n, hn⟩ := ih h.meet (hnodup.erase next) hapart'
      exact ⟨n + 1, .more (.meet_first (hapart next hnext)) hn⟩
  | case3 unseen reached next rest hnext ih =>
      obtain ⟨n, hn⟩ := ih (h.skip hnext) hnodup hapart
      have hmet : next ∈ reached :=
        (h.known next (h.mentioned next List.mem_cons_self)).resolve_left hnext
      exact ⟨n + 1, .more (.skip_first hmet) hn⟩

theorem nodup_eraseDups : (names : List String) → names.eraseDups.Nodup
  | [] => List.nodup_nil
  | name :: names => by
      have hlength : (names.filter fun other => !other == name).length < names.length + 1 :=
        Nat.lt_succ_of_le (List.length_filter_le _ _)
      rw [List.eraseDups_cons, List.nodup_cons]
      exact ⟨by simp [List.mem_eraseDups], nodup_eraseDups _⟩
termination_by names => names.length

theorem reachable_rounds (s : ScoringSettings) (entry : String) :
    ∃ n, s.Rounds n ⟨[], [entry]⟩ ⟨s.reachable entry, []⟩ :=
  (Frontier.start s entry).follow_rounds (nodup_eraseDups _) fun _ _ => List.not_mem_nil

end ScoringSettings

/-! ## The warnings -/

open Relation ScoringSettings

open Classical in
/-- Settings are warned of an index in memory, and then either of a score that nothing is bound to
or of each binding, leaves first, whose name the score does not lead to by what names were last
declared to read. The search for these names ends after at most one round for the score and one for
each input of a binding, whichever pending name each round takes. -/
theorem warnings_exact (s : Settings) :
    s.warnings =
        (if s.index.path = none then [.inMemoryIndex] else []) ++
          (if s.search.score ∈ s.scoring.declarations.map Prod.fst then
            ((s.scoring.declarations.map Prod.fst).filter fun name =>
              ¬ReflTransGen s.scoring.LastReads s.search.score name).map .unusedBinding
          else [.unknownScore s.search.score]) ∧
      (∃ n, s.scoring.Rounds n ⟨[], [s.search.score]⟩ ⟨s.scoring.reachable s.search.score, []⟩) ∧
      ∀ n v, s.scoring.Rounds n ⟨[], [s.search.score]⟩ v →
        n ≤ 1 + (s.scoring.derived.map fun b => b.inputs.length).sum ∧
          ((∃ w, s.scoring.Round v w) ∨
            ∀ name, name ∈ v.reached ↔ ReflTransGen s.scoring.LastReads s.search.score name) := by
  have hreads : s.scoring.Reads = s.scoring.LastReads := by
    funext name input
    exact propext reads_iff_lastReads
  have hnames : s.scoring.declarations.map Prod.fst = s.scoring.names := by
    simp [declarations, names, Function.comp_def]
  refine ⟨?_, reachable_rounds _ _, fun n v h => ⟨?_, ?_⟩⟩
  · rw [hnames, ← hreads]
    have hmemory : (if s.index.path.isNone then [Warning.inMemoryIndex] else []) =
        if s.index.path = none then [.inMemoryIndex] else [] := by
      simp only [Option.isNone_iff_eq_none]
    have hunused : (s.scoring.names.filter fun name =>
          name ∉ s.scoring.reachable s.search.score) =
        s.scoring.names.filter fun name =>
          ¬ReflTransGen s.scoring.Reads s.search.score name := by
      refine List.filter_congr fun name _ => ?_
      exact decide_eq_decide.mpr (not_congr mem_reachable_iff)
    simp only [Settings.warnings, Settings.scoringWarnings, hmemory, hunused]
  · have hleft := h.left_eq
    have hstart := left_start_le s.scoring s.search.score
    omega
  · by_cases hdone : v.pending = []
    · rw [← hreads]
      exact .inr fun name => h.mem_reached_iff hdone
    · exact .inl (exists_round hdone)

end Catalogue
