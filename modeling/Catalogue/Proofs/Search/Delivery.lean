import Catalogue.Search.Context
import Mathlib.Data.List.Nodup

/-! # Everything in a context hears every announcement

Contexts are put into one another to any depth. An announcement to the outermost one still reaches
each listener in it exactly once, from left to right, before the next announcement reaches any, and
none that fails keeps it from the others. What comes back is the first failure, so that a context is
as good as the flat one of its leaves. -/

namespace Catalogue

inductive Announcement where
  | segment (s : Segment)
  | doc (number : Nat)

/-- An announcement as a leaf of a context hears it, with the answer it gives. Leaves are numbered
from left to right. -/
structure Heard where
  leaf : Nat
  announcement : Announcement
  answer : Except ScoreError Unit

section

variable {σ : Type}

/-- Tells a listener. No listener fails on a document. -/
def Listener.hear (l : Listener σ) : Announcement → σ → Except ScoreError Unit × σ
  | .segment s, world => l.onSegment s world
  | .doc number, world => (.ok (), l.onDoc number world)

/-- The same listener with a log, where it notes under a number what it hears and answers. -/
def Listener.noting (l : Listener σ) (number : Nat) : Listener (σ × List Heard) where
  onSegment s w :=
    let (answer, world) := l.onSegment s w.1
    (answer, (world, w.2 ++ [⟨number, .segment s, answer⟩]))
  onDoc doc w := (l.onDoc doc w.1, w.2 ++ [⟨number, .doc doc, .ok ()⟩])

namespace Context

def announce (c : Context (Listener σ)) : Announcement → σ → Except ScoreError Unit × σ
  | .segment s, world => c.onSegment s world
  | .doc number, world => (.ok (), c.onDoc number world)

def announceAll (c : Context (Listener σ)) :
    List Announcement → σ → List (Except ScoreError Unit) × σ
  | [], world => ([], world)
  | a :: rest, world =>
    let (answer, world) := c.announce a world
    let (answers, world) := c.announceAll rest world
    (answer :: answers, world)

mutual
/-- The same context with a log of what its leaves hear, which are numbered from `first` on. -/
def notingFrom (first : Nat) : Context (Listener σ) → Context (Listener (σ × List Heard))
  | leaf l => leaf (l.noting first)
  | all children => all (childrenNotingFrom first children)

def childrenNotingFrom (first : Nat) :
    List (Context (Listener σ)) → List (Context (Listener (σ × List Heard)))
  | [] => []
  | c :: rest => c.notingFrom first :: childrenNotingFrom (first + c.leaves.length) rest
end

def noting (c : Context (Listener σ)) : Context (Listener (σ × List Heard)) := c.notingFrom 0

/-- The context of the same leaves with nothing put into anything. -/
def flat {α : Type} (c : Context α) : Context α := all (c.leaves.map leaf)

end Context

/-- What one announcement does among so many leaves: each hears it, in order, and what comes back is
the failure of the first one that fails. -/
structure Delivered (leaves : Nat) (a : Announcement) (answer : Except ScoreError Unit)
    (heard : List Heard) : Prop where
  each : heard.map (fun h => (h.leaf, h.announcement)) = (List.range leaves).map fun i => (i, a)
  ok_iff : answer = .ok () ↔ ∀ h ∈ heard, h.answer = .ok ()
  error_iff : ∀ e, answer = .error e ↔ ∃ before h after, heard = before ++ h :: after ∧
    h.answer = .error e ∧ ∀ b ∈ before, b.answer = .ok ()

/-- What announcements do one after the other: all of the first is heard before any of the next. -/
inductive Deliveries (leaves : Nat) :
    List Announcement → List (Except ScoreError Unit) → List Heard → Prop where
  | nil : Deliveries leaves [] [] []
  | cons {a answer block announced answers heard} : Delivered leaves a answer block →
      Deliveries leaves announced answers heard →
      Deliveries leaves (a :: announced) (answer :: answers) (block ++ heard)

/-! ## Leaf by leaf -/

def tellEach (a : Announcement) :
    List (Listener σ) → σ → List (Except ScoreError Unit) × σ
  | [], world => ([], world)
  | l :: rest, world =>
    let (answer, world) := l.hear a world
    let (answers, world) := tellEach a rest world
    (answer :: answers, world)

def firstOf (answers : List (Except ScoreError Unit)) : Except ScoreError Unit :=
  answers.foldr Context.firstFailure (.ok ())

theorem tellEach_append (a : Announcement) (ls others : List (Listener σ)) (world : σ) :
    tellEach a (ls ++ others) world =
      let (answers, world) := tellEach a ls world
      let (more, world) := tellEach a others world
      (answers ++ more, world) := by
  induction ls generalizing world with
  | nil => rfl
  | cons l rest ih => simp only [List.cons_append, tellEach, ih]

theorem length_tellEach (a : Announcement) (ls : List (Listener σ)) (world : σ) :
    (tellEach a ls world).1.length = ls.length := by
  induction ls generalizing world with
  | nil => rfl
  | cons l rest ih => simp only [tellEach, List.length_cons, ih]

theorem firstOf_append (answers others : List (Except ScoreError Unit)) :
    firstOf (answers ++ others) = Context.firstFailure (firstOf answers) (firstOf others) := by
  induction answers with
  | nil => rfl
  | cons answer rest ih =>
      simp only [firstOf, List.cons_append, List.foldr_cons] at ih ⊢
      rw [ih]
      cases answer <;> rfl

theorem firstOf_eq_ok_iff (answers : List (Except ScoreError Unit)) :
    firstOf answers = .ok () ↔ ∀ r ∈ answers, r = .ok () := by
  induction answers with
  | nil => simp [firstOf]
  | cons answer rest ih =>
      rw [List.forall_mem_cons, ← ih]
      cases answer <;> simp [firstOf, Context.firstFailure]

theorem firstOf_eq_error_iff (answers : List (Except ScoreError Unit)) (e : ScoreError) :
    firstOf answers = .error e ↔
      ∃ before after, answers = before ++ .error e :: after ∧ ∀ r ∈ before, r = .ok () := by
  constructor
  · induction answers with
    | nil => intro h; cases h
    | cons answer rest ih =>
        intro h
        cases answer with
        | error e' =>
            cases h
            exact ⟨[], rest, rfl, by simp⟩
        | ok _ =>
            obtain ⟨before, after, rfl, hbefore⟩ := ih h
            exact ⟨.ok () :: before, after, rfl, List.forall_mem_cons.mpr ⟨rfl, hbefore⟩⟩
  · rintro ⟨before, after, rfl, hbefore⟩
    rw [firstOf_append, (firstOf_eq_ok_iff before).mpr hbefore]
    rfl

/-! ## A tree tells its leaves -/

namespace Context

mutual
theorem onSegment_eq (s : Segment) : (c : Context (Listener σ)) → (world : σ) →
    c.onSegment s world =
      (firstOf (tellEach (.segment s) c.leaves world).1, (tellEach (.segment s) c.leaves world).2)
  | leaf l, world => by
      rw [onSegment, leaves]
      simp only [tellEach, Listener.hear]
      rcases l.onSegment s world with ⟨_ | _, _⟩ <;> rfl
  | all children, world => by rw [onSegment, leaves, childrenOnSegment_eq]

theorem childrenOnSegment_eq (s : Segment) : (children : List (Context (Listener σ))) →
    (world : σ) → childrenOnSegment s children world =
      (firstOf (tellEach (.segment s) (childLeaves children) world).1,
        (tellEach (.segment s) (childLeaves children) world).2)
  | [], _ => by rw [childrenOnSegment, childLeaves]; rfl
  | c :: rest, world => by
      rw [childrenOnSegment, childLeaves, tellEach_append]
      simp only [onSegment_eq s c, childrenOnSegment_eq s rest, firstOf_append]
end

mutual
theorem onDoc_eq (doc : Nat) : (c : Context (Listener σ)) → (world : σ) →
    c.onDoc doc world = (tellEach (.doc doc) c.leaves world).2
  | leaf _, _ => by rw [onDoc, leaves]; rfl
  | all children, world => by rw [onDoc, leaves, childrenOnDoc_eq]

theorem childrenOnDoc_eq (doc : Nat) : (children : List (Context (Listener σ))) → (world : σ) →
    childrenOnDoc doc children world = (tellEach (.doc doc) (childLeaves children) world).2
  | [], _ => by rw [childrenOnDoc, childLeaves]; rfl
  | c :: rest, world => by
      rw [childrenOnDoc, childLeaves, tellEach_append]
      simp only [onDoc_eq doc c, childrenOnDoc_eq doc rest]
end

theorem tellEach_doc (doc : Nat) (ls : List (Listener σ)) (world : σ) :
    firstOf (tellEach (.doc doc) ls world).1 = .ok () := by
  induction ls generalizing world with
  | nil => rfl
  | cons l rest ih => exact ih (l.onDoc doc world)

/-- An announcement to a context is one to each of its leaves in order, however they are put
together. -/
theorem announce_eq (c : Context (Listener σ)) (a : Announcement) (world : σ) :
    c.announce a world =
      (firstOf (tellEach a c.leaves world).1, (tellEach a c.leaves world).2) := by
  cases a with
  | segment s => exact c.onSegment_eq s world
  | doc number => rw [announce, tellEach_doc, c.onDoc_eq]

/-- Contexts of the same leaves cannot be told apart. -/
theorem announceAll_congr {c d : Context (Listener σ)} (h : c.leaves = d.leaves)
    (announced : List Announcement) (world : σ) :
    c.announceAll announced world = d.announceAll announced world := by
  induction announced generalizing world with
  | nil => rfl
  | cons a rest ih => simp only [announceAll, announce_eq, h, ih]

theorem childLeaves_map_leaf {α : Type} (as : List α) : childLeaves (as.map leaf) = as := by
  induction as with
  | nil => rw [List.map_nil, childLeaves]
  | cons a rest ih =>
      rw [List.map_cons, childLeaves, leaves, ih]
      rfl

theorem leaves_flat {α : Type} (c : Context α) : c.flat.leaves = c.leaves := by
  rw [flat, leaves, childLeaves_map_leaf]

/-! ## The log -/

mutual
theorem leaves_notingFrom : (c : Context (Listener σ)) → (first : Nat) →
    (c.notingFrom first).leaves = (c.leaves.zipIdx first).map fun p => p.1.noting p.2
  | leaf l, first => by rw [notingFrom, leaves, leaves]; rfl
  | all children, first => by rw [notingFrom, leaves, leaves, childLeaves_notingFrom]

theorem childLeaves_notingFrom : (children : List (Context (Listener σ))) → (first : Nat) →
    childLeaves (childrenNotingFrom first children) =
      ((childLeaves children).zipIdx first).map fun p => p.1.noting p.2
  | [], first => by rw [childrenNotingFrom, childLeaves, childLeaves]; rfl
  | c :: rest, first => by
      rw [childrenNotingFrom, childLeaves, childLeaves, leaves_notingFrom c,
        childLeaves_notingFrom rest, List.zipIdx_append, List.map_append]
end

end Context

/-- What listeners that are numbered from `first` on hear, given what they answer. -/
def heardFrom (first : Nat) (a : Announcement) (answers : List (Except ScoreError Unit)) :
    List Heard :=
  (answers.zipIdx first).map fun p => ⟨p.2, a, p.1⟩

theorem Listener.hear_noting (l : Listener σ) (number : Nat) (a : Announcement) (world : σ)
    (log : List Heard) : (l.noting number).hear a (world, log) =
      ((l.hear a world).1, ((l.hear a world).2, log ++ [⟨number, a, (l.hear a world).1⟩])) := by
  cases a <;> rfl

theorem tellEach_noting (a : Announcement) (ls : List (Listener σ)) (first : Nat) (world : σ)
    (log : List Heard) :
    tellEach a ((ls.zipIdx first).map fun p => p.1.noting p.2) (world, log) =
      ((tellEach a ls world).1, ((tellEach a ls world).2,
        log ++ heardFrom first a (tellEach a ls world).1)) := by
  induction ls generalizing first world log with
  | nil => simp [tellEach, heardFrom]
  | cons l rest ih =>
      simp only [List.zipIdx_cons, List.map_cons, tellEach, l.hear_noting, ih, heardFrom,
        List.append_assoc, List.singleton_append]

theorem Context.announce_noting (c : Context (Listener σ)) (a : Announcement) (world : σ)
    (log : List Heard) : c.noting.announce a (world, log) =
      ((c.announce a world).1, ((c.announce a world).2,
        log ++ heardFrom 0 a (tellEach a c.leaves world).1)) := by
  simp only [announce_eq, noting, leaves_notingFrom, tellEach_noting]

theorem delivered_heardFrom (a : Announcement) (answers : List (Except ScoreError Unit)) :
    Delivered answers.length a (firstOf answers) (heardFrom 0 a answers) := by
  have hanswers : (heardFrom 0 a answers).map Heard.answer = answers := by
    rw [heardFrom, List.map_map]
    exact List.zipIdx_map_fst 0 answers
  refine ⟨?_, ?_, fun e => ?_⟩
  · rw [heardFrom, List.map_map, List.range_eq_range', ← List.zipIdx_map_snd 0 answers,
      List.map_map]
    rfl
  · rw [firstOf_eq_ok_iff, ← List.forall_mem_map (f := Heard.answer) (P := (· = .ok ())), hanswers]
  · rw [firstOf_eq_error_iff]
    constructor
    · rintro ⟨before, after, hsplit, hbefore⟩
      rw [← hanswers, List.map_eq_append_iff] at hsplit
      obtain ⟨first, rest, hheard, rfl, hrest⟩ := hsplit
      obtain ⟨h, others, rfl, hanswer, _⟩ := List.map_eq_cons_iff.mp hrest
      exact ⟨first, h, others, hheard, hanswer, List.forall_mem_map.mp hbefore⟩
    · rintro ⟨first, h, others, hheard, hanswer, hfirst⟩
      refine ⟨first.map Heard.answer, others.map Heard.answer, ?_, List.forall_mem_map.mpr hfirst⟩
      rw [← hanswers, hheard, List.map_append, List.map_cons, hanswer]

/-! ## A run of announcements -/

theorem Context.announceAll_noting (c : Context (Listener σ)) (announced : List Announcement)
    (world : σ) (log : List Heard) :
    ∃ heard, Deliveries c.leaves.length announced (c.announceAll announced world).1 heard ∧
      c.noting.announceAll announced (world, log) =
        ((c.announceAll announced world).1, ((c.announceAll announced world).2, log ++ heard)) := by
  induction announced generalizing world log with
  | nil => exact ⟨[], .nil, by rw [announceAll, List.append_nil]; rfl⟩
  | cons a rest ih =>
      obtain ⟨heard, hrest, hlog⟩ := ih (c.announce a world).2
        (log ++ heardFrom 0 a (tellEach a c.leaves world).1)
      have hfirst : Delivered c.leaves.length a (c.announce a world).1
          (heardFrom 0 a (tellEach a c.leaves world).1) := by
        rw [announce_eq, ← length_tellEach a c.leaves world]
        exact delivered_heardFrom a (tellEach a c.leaves world).1
      refine ⟨_, .cons hfirst hrest, ?_⟩
      simp only [announceAll, announce_noting, hlog, List.append_assoc]

/-- Each leaf hears of one announcement once. -/
theorem Delivered.received {leaves : Nat} {a : Announcement} {answer : Except ScoreError Unit}
    {heard : List Heard} (h : Delivered leaves a answer heard) {i : Nat} (hi : i < leaves) :
    (heard.filter fun h => h.leaf = i).map Heard.announcement = [a] := by
  have hpairs : (heard.filter fun h => h.leaf = i).map Heard.announcement =
      ((heard.map fun h => (h.leaf, h.announcement)).filter fun p => p.1 = i).map Prod.snd := by
    rw [List.filter_map, List.map_map]
    rfl
  have hself : (List.range leaves).filter (· = i) = [i] := by
    rw [List.filter_eq, List.count_eq_one_of_mem List.nodup_range (List.mem_range.mpr hi)]
    rfl
  rw [hpairs, h.each, List.filter_map, List.map_map]
  exact congrArg (List.map _) hself

/-- Each leaf hears what is announced, in that order, and nothing else. -/
theorem Deliveries.received {leaves : Nat} {announced : List Announcement}
    {answers : List (Except ScoreError Unit)} {heard : List Heard}
    (h : Deliveries leaves announced answers heard) {i : Nat} (hi : i < leaves) :
    (heard.filter fun h => h.leaf = i).map Heard.announcement = announced := by
  induction h with
  | nil => rfl
  | cons hfirst _ ih => rw [List.filter_append, List.map_append, hfirst.received hi, ih]; rfl

end

/-- However contexts are put into one another, everything that is announced to the outermost is
heard by all its leaves from left to right, whatever they answer, before they hear of the next; each
leaf hears all of it once, in order. What comes back is each time the failure of the left-most leaf
that fails. Keeping a log of this disturbs nothing, and the flat context of the same leaves does the
same. -/
theorem announcements_flatten {σ : Type} (c : Context (Listener σ))
    (announced : List Announcement) (world : σ) :
    let (answers, after) := c.announceAll announced world
    (∃ heard, c.noting.announceAll announced (world, []) = (answers, (after, heard)) ∧
      Deliveries c.leaves.length announced answers heard ∧
      ∀ i < c.leaves.length,
        (heard.filter fun h => h.leaf = i).map Heard.announcement = announced) ∧
    c.flat.announceAll announced world = (answers, after) := by
  obtain ⟨heard, hdeliveries, hlog⟩ := c.announceAll_noting announced world []
  refine ⟨⟨heard, hlog, hdeliveries, fun i hi => hdeliveries.received hi⟩, ?_⟩
  exact Context.announceAll_congr c.leaves_flat announced world

end Catalogue
