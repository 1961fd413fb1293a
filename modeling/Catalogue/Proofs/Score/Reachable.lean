import Catalogue.Settings.Warning
import Mathlib.Logic.Relation

/-! # The names that a name leads to

Following the inputs of a name, each name once, ends with exactly the names that the relation leads
to. Bindings may go round in circles and names may be bound several times or not at all. -/

namespace Catalogue.ScoringSettings

open Relation

variable {s : ScoringSettings} {entry name : String} {unseen reached pending : List String}

/-- A name is bound to a function of another one. -/
def Reads (s : ScoringSettings) (name input : String) : Prop := input ∈ s.inputs name

instance (s : ScoringSettings) (name input : String) : Decidable (s.Reads name input) :=
  inferInstanceAs (Decidable (input ∈ s.inputs name))

theorem Reads.mem_mentioned {input : String} (h : s.Reads name input) : input ∈ s.mentioned := by
  unfold Reads inputs at h
  cases hfind : s.derived.reverse.find? fun b => b.name = name with
  | none => simp [hfind] at h
  | some b =>
      have hb : b ∈ s.derived := List.mem_reverse.mp (List.mem_of_find?_eq_some hfind)
      rw [hfind] at h
      exact List.mem_append_right _ (List.mem_flatMap.mpr ⟨b, hb, h⟩)

/-- What holds between two steps: the names that were met are led to, and what they read was met or
is still to be looked at. -/
structure Frontier (s : ScoringSettings) (entry : String)
    (unseen reached pending : List String) : Prop where
  known : ∀ name ∈ entry :: s.mentioned, name ∈ unseen ∨ name ∈ reached
  mentioned : ∀ name ∈ pending, name ∈ entry :: s.mentioned
  begun : entry ∈ reached ∨ entry ∈ pending
  ledTo : ∀ name, name ∈ reached ∨ name ∈ pending → ReflTransGen s.Reads entry name
  onward : ∀ name ∈ reached, ∀ input, s.Reads name input → input ∈ reached ∨ input ∈ pending

theorem Frontier.start (s : ScoringSettings) (entry : String) :
    s.Frontier entry (entry :: s.mentioned).eraseDups [] [entry] where
  known name hname := .inl (List.mem_eraseDups.mpr hname)
  mentioned name hname := by simp [List.mem_singleton.mp hname]
  begun := by simp
  ledTo name hname := by
    rcases hname with hname | hname
    · cases hname
    · rw [List.mem_singleton.mp hname]
  onward name hname := absurd hname List.not_mem_nil

/-- A name that is met for the first time is reached, and what it reads is to be looked at. -/
theorem Frontier.meet (h : s.Frontier entry unseen reached (name :: pending)) :
    s.Frontier entry (unseen.erase name) (name :: reached) (s.inputs name ++ pending) := by
  have hpass : ∀ other, other ∈ reached ∨ other ∈ name :: pending →
      other ∈ name :: reached ∨ other ∈ s.inputs name ++ pending := by
    rintro other (hreached | hother)
    · exact .inl (List.mem_cons_of_mem name hreached)
    · rcases List.mem_cons.mp hother with rfl | hpending
      · exact .inl List.mem_cons_self
      · exact .inr (List.mem_append_right _ hpending)
  refine ⟨?_, ?_, hpass entry h.begun, ?_, ?_⟩
  · intro other hother
    by_cases hname : other = name
    · exact .inr (by simp [hname])
    · rcases h.known other hother with hunseen | hreached
      · exact .inl ((List.mem_erase_of_ne hname).mpr hunseen)
      · exact .inr (List.mem_cons_of_mem name hreached)
  · intro other hother
    rcases List.mem_append.mp hother with hread | hpending
    · exact List.mem_cons_of_mem entry (Reads.mem_mentioned hread)
    · exact h.mentioned other (List.mem_cons_of_mem name hpending)
  · intro other hother
    have hname : ReflTransGen s.Reads entry name := h.ledTo name (.inr List.mem_cons_self)
    have hledTo := h.ledTo other
    simp only [List.mem_cons, List.mem_append] at hother hledTo
    rcases hother with (rfl | hreached) | hread | hpending
    · exact hname
    · exact hledTo (.inl hreached)
    · exact hname.tail hread
    · exact hledTo (.inr (.inr hpending))
  · intro other hother input hinput
    rcases List.mem_cons.mp hother with rfl | hreached
    · exact .inr (List.mem_append_left _ hinput)
    · exact hpass input (h.onward other hreached input hinput)

/-- A name that was met before needs no second look. -/
theorem Frontier.skip (h : s.Frontier entry unseen reached (name :: pending))
    (hname : name ∉ unseen) : s.Frontier entry unseen reached pending := by
  have hmet : name ∈ reached := (h.known name (h.mentioned name List.mem_cons_self)).resolve_left hname
  have hpass : ∀ other, other ∈ reached ∨ other ∈ name :: pending →
      other ∈ reached ∨ other ∈ pending := by
    rintro other (hreached | hother)
    · exact .inl hreached
    · rcases List.mem_cons.mp hother with rfl | hpending
      · exact .inl hmet
      · exact .inr hpending
  refine ⟨h.known, ?_, hpass entry h.begun, ?_, ?_⟩
  · exact fun other hother => h.mentioned other (List.mem_cons_of_mem name hother)
  · exact fun other hother => h.ledTo other (hother.imp_right (List.mem_cons_of_mem name))
  · exact fun other hother input hinput => hpass input (h.onward other hother input hinput)

theorem Frontier.mem_follow_iff (h : s.Frontier entry unseen reached pending) :
    name ∈ s.follow unseen reached pending ↔ ReflTransGen s.Reads entry name := by
  fun_induction follow with
  | case1 unseen reached =>
      refine ⟨fun hname => h.ledTo name (.inl hname), fun hled => ?_⟩
      induction hled with
      | refl => simpa using h.begun
      | tail _ hread ih => simpa using h.onward _ ih _ hread
  | case2 unseen reached next rest hnext ih => exact ih h.meet
  | case3 unseen reached next rest hnext ih => exact ih (h.skip hnext)

/-- The reachable names are those that reading leads to. -/
theorem mem_reachable_iff : name ∈ s.reachable entry ↔ ReflTransGen s.Reads entry name :=
  (Frontier.start s entry).mem_follow_iff

end Catalogue.ScoringSettings

namespace Catalogue

/-- Nothing is warned of in bindings that the score leads to. -/
theorem Settings.scoringWarnings_eq_nil {s : Settings}
    (hscore : s.search.score ∈ s.scoring.names)
    (hread : ∀ name ∈ s.scoring.names, name ∈ s.scoring.reachable s.search.score) :
    s.scoringWarnings = [] := by
  unfold scoringWarnings
  dsimp only
  rw [if_pos hscore, List.map_eq_nil_iff, List.filter_eq_nil_iff]
  intro name hname
  rw [decide_eq_true_eq]
  exact not_not_intro (hread name hname)

end Catalogue
