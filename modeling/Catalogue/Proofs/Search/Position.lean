import Catalogue.Proofs.Outcome
import Catalogue.Proofs.Search.Delivery
import Catalogue.Search.Scope
import Mathlib.Data.List.Induction

/-! # What is read where announcements lead

The fields hear announcements in any order: documents before any segment, documents that a segment
does not have, one segment after the other. A read depends on nothing but the last document
announced since the last segment. If there is one and the segment has it, the four ways to read a
field show the same texts. -/

namespace Catalogue

/-- No document was announced since the last segment, or no segment was announced. -/
def StandsNowhere (announced : List Announcement) : Prop :=
  (∀ s, .segment s ∉ announced) ∨ ∃ before s, announced = before ++ [.segment s]

/-- The last segment that was announced is `s`, and the last document announced since is `doc`. -/
def StandsOn (announced : List Announcement) (s : Segment) (doc : Nat) : Prop :=
  ∃ before, ∃ docs : List Nat, announced = before ++ .segment s :: (docs.map .doc ++ [.doc doc])

def firstOr {α : Type} (missing : ScoreError) : List α → Except ScoreError α
  | [] => .error missing
  | a :: _ => .ok a

/-- What the four kinds of reads give of a field with these texts: all texts, and the first one or a
failure, each as text and in UTF-8. -/
structure KindsAgree (read : FieldKind → Except ScoreError Value) (texts : List String)
    (missing : ScoreError) : Prop where
  strings : read .strings = .ok ⟨.strings, texts⟩
  string : read .string = (firstOr missing texts).map (Value.mk .string)
  bytesList : read .bytesList = .ok ⟨.bytesList, texts.map textBytes⟩
  bytes : read .bytes = (firstOr missing (texts.map textBytes)).map (Value.mk .bytes)

/-- What reads of a field give after some announcements. -/
structure ReadsAfter (announced : List Announcement) (f : Field)
    (read : FieldKind → Except ScoreError Value) : Prop where
  noContext_iff : ∀ kind, read kind = .error .noContext ↔ StandsNowhere announced
  store_iff : ∀ kind reason, read kind = .error (.store reason) ↔
    ∃ s doc, StandsOn announced s doc ∧ s[doc]? = none ∧ reason = Place.lookupFailure doc
  found : ∀ s doc d, StandsOn announced s doc → s[doc]? = some d →
    KindsAgree read (d.values f) (.missingField f.name doc)

/-! ## Where announcements lead -/

namespace Place

def hear (p : Place) : Announcement → Place
  | .segment s => p.enter s
  | .doc number => p.moveTo number

def after (announced : List Announcement) : Place := announced.foldl hear .start

theorem after_append (announced others : List Announcement) :
    after (announced ++ others) = others.foldl hear (after announced) :=
  List.foldl_append

/-- Documents leave the segment as it is. -/
theorem segment_docs (p : Place) (docs : List Nat) :
    ((docs.map Announcement.doc).foldl hear p).segment = p.segment := by
  induction docs generalizing p with
  | nil => rfl
  | cons doc rest ih => exact ih (p.moveTo doc)

theorem segment_after_eq_none {announced : List Announcement}
    (h : ∀ s, .segment s ∉ announced) : (after announced).segment = none := by
  induction announced using List.reverseRecOn with
  | nil => rfl
  | append_singleton before a ih =>
      have hbefore := ih fun s hs => h s (List.mem_append_left _ hs)
      rw [after_append]
      cases a with
      | segment s => exact absurd (List.mem_append_right before List.mem_cons_self) (h s)
      | doc number => exact hbefore

theorem after_of_standsOn {announced : List Announcement} {s : Segment} {doc : Nat}
    (h : StandsOn announced s doc) : after announced = ⟨some s, some doc⟩ := by
  obtain ⟨before, docs, rfl⟩ := h
  have hsegment := segment_docs ((after before).enter s) docs
  rw [after_append, List.foldl_cons, List.foldl_append]
  change Place.mk ((docs.map Announcement.doc).foldl hear ((after before).enter s)).segment _ = _
  rw [hsegment]
  rfl

theorem current_of_standsNowhere {announced : List Announcement} (h : StandsNowhere announced) :
    (after announced).current = .error .noContext := by
  rcases h with hnone | ⟨before, s, rfl⟩
  · simp only [current, segment_after_eq_none hnone]
  · rw [after_append]
    rfl

/-- Announcements lead nowhere or to a document of the last segment. -/
theorem nowhere_or_on (announced : List Announcement) :
    StandsNowhere announced ∨ ∃ s doc, StandsOn announced s doc := by
  induction announced using List.reverseRecOn with
  | nil => exact .inl (.inl fun s => List.not_mem_nil)
  | append_singleton before a ih =>
      cases a with
      | segment s => exact .inl (.inr ⟨before, s, rfl⟩)
      | doc number =>
          rcases ih with (hnone | ⟨earlier, s, rfl⟩) | ⟨s, doc, earlier, docs, rfl⟩
          · refine .inl (.inl fun s hs => ?_)
            rcases List.mem_append.mp hs with hs | hs
            · exact hnone s hs
            · cases List.mem_singleton.mp hs
          · exact .inr ⟨s, number, earlier, [], by simp⟩
          · exact .inr ⟨s, number, earlier, docs ++ [doc], by simp⟩

/-! ## What is read there -/

section

variable {s : Segment} {doc : Nat}

theorem read_of_current_error {p : Place} {e : ScoreError} (h : p.current = .error e) (f : Field)
    (kind : FieldKind) : p.read f kind = .error e := by
  cases kind <;> simp only [read, first, every, h] <;> rfl

theorem current_eq_store (h : s[doc]? = none) :
    (Place.mk (some s) (some doc)).current = .error (.store (lookupFailure doc)) := by
  simp only [current, h]

theorem current_eq_ok {d : Document} (h : s[doc]? = some d) :
    (Place.mk (some s) (some doc)).current = .ok (doc, d) := by
  simp only [current, h]

theorem every_eq {p : Place} {d : Document} (h : p.current = .ok (doc, d)) (f : Field) :
    p.every f = .ok (d.values f) := by
  rw [every, h]
  rfl

theorem first_eq {p : Place} {d : Document} (h : p.current = .ok (doc, d)) (f : Field) :
    p.first f = firstOr (.missingField f.name doc) (d.values f) := by
  rw [first, h, ok_bind]
  simp only
  cases d.values f <;> rfl

theorem firstOr_map {α β : Type} (missing : ScoreError) (g : α → β) (as : List α) :
    firstOr missing (as.map g) = (firstOr missing as).map g := by
  cases as <;> rfl

/-- A document of the segment is read as it is, whatever else the segment has. -/
theorem read_kindsAgree {d : Document} (h : s[doc]? = some d) (f : Field) :
    KindsAgree ((Place.mk (some s) (some doc)).read f) (d.values f) (.missingField f.name doc) where
  strings := by rw [read, every_eq (current_eq_ok h)]; rfl
  string := by
    rw [read, first_eq (current_eq_ok h)]
    cases firstOr _ (d.values f) <;> rfl
  bytesList := by rw [read, every_eq (current_eq_ok h)]; rfl
  bytes := by
    rw [read, first_eq (current_eq_ok h), firstOr_map]
    cases firstOr _ (d.values f) <;> rfl

end

end Place

/-- Reads that agree fail for nothing but a missing text. -/
theorem KindsAgree.eq_missing {read : FieldKind → Except ScoreError Value} {texts : List String}
    {missing e : ScoreError} (h : KindsAgree read texts missing) {kind : FieldKind}
    (herror : read kind = .error e) : e = missing := by
  cases kind with
  | strings => cases h.strings.symm.trans herror
  | bytesList => cases h.bytesList.symm.trans herror
  | string =>
      have hread := h.string.symm.trans herror
      cases texts with
      | nil => exact (Except.error.inj hread).symm
      | cons text rest => cases hread
  | bytes =>
      have hread := h.bytes.symm.trans herror
      cases texts with
      | nil => exact (Except.error.inj hread).symm
      | cons text rest => cases hread

theorem place_announceAll (announced : List Announcement) (state : ScoreState) :
    ((Context.leaf fieldListener).announceAll announced state).2.place =
      announced.foldl Place.hear state.place := by
  induction announced generalizing state with
  | nil => rfl
  | cons a rest ih => cases a <;> exact ih _

section

variable {announced : List Announcement} {s t : Segment} {doc number : Nat}

theorem StandsOn.unique (h : StandsOn announced s doc) (h' : StandsOn announced t number) :
    t = s ∧ number = doc := by
  have hsame := (Place.after_of_standsOn h').symm.trans (Place.after_of_standsOn h)
  exact ⟨Option.some.inj (congrArg Place.segment hsame), Option.some.inj (congrArg Place.doc hsame)⟩

theorem StandsOn.not_nowhere (h : StandsOn announced s doc) : ¬StandsNowhere announced := by
  intro hnowhere
  have hcurrent := Place.current_of_standsNowhere hnowhere
  rw [Place.after_of_standsOn h] at hcurrent
  cases hd : s[doc]? with
  | none => cases (Place.current_eq_store hd).symm.trans hcurrent
  | some d => cases (Place.current_eq_ok hd).symm.trans hcurrent

/-! ## Reads after announcements -/

theorem ReadsAfter.nowhere {f : Field} (h : StandsNowhere announced) :
    ReadsAfter announced f ((Place.after announced).read f) := by
  have hread := Place.read_of_current_error (Place.current_of_standsNowhere h) f
  have hnot : ∀ {s doc}, ¬StandsOn announced s doc := fun hon => hon.not_nowhere h
  refine ⟨fun kind => ⟨fun _ => h, fun _ => hread kind⟩, fun kind reason => ?_, ?_⟩
  · rw [hread kind]
    refine ⟨nofun, ?_⟩
    rintro ⟨s, doc, hon, _⟩
    exact absurd hon hnot
  · exact fun s doc d hon => absurd hon hnot

theorem ReadsAfter.beyond {f : Field} (h : StandsOn announced s doc) (hdoc : s[doc]? = none) :
    ReadsAfter announced f ((Place.after announced).read f) := by
  rw [Place.after_of_standsOn h]
  have hread := Place.read_of_current_error (Place.current_eq_store hdoc) f
  refine ⟨fun kind => ?_, fun kind reason => ?_, fun t number d hon hd => ?_⟩
  · rw [hread kind]
    exact ⟨nofun, fun hnowhere => absurd hnowhere h.not_nowhere⟩
  · rw [hread kind]
    constructor
    · intro herror
      cases herror
      exact ⟨s, doc, h, hdoc, rfl⟩
    · rintro ⟨t, number, hon, _, rfl⟩
      rw [(h.unique hon).2]
  · obtain ⟨rfl, rfl⟩ := h.unique hon
    cases hdoc.symm.trans hd

theorem ReadsAfter.on {f : Field} {d : Document} (h : StandsOn announced s doc)
    (hd : s[doc]? = some d) : ReadsAfter announced f ((Place.after announced).read f) := by
  rw [Place.after_of_standsOn h]
  have hagree := Place.read_kindsAgree hd f
  refine ⟨fun kind => ?_, fun kind reason => ?_, fun t number e hon he => ?_⟩
  · exact ⟨fun herror => absurd (hagree.eq_missing herror) nofun,
      fun hnowhere => absurd hnowhere h.not_nowhere⟩
  · refine ⟨fun herror => absurd (hagree.eq_missing herror) nofun, ?_⟩
    rintro ⟨t, number, hon, hnone, _⟩
    obtain ⟨rfl, rfl⟩ := h.unique hon
    cases hd.symm.trans hnone
  · obtain ⟨rfl, rfl⟩ := h.unique hon
    cases hd.symm.trans he
    exact hagree

end

/-- Whatever was announced to the fields, in any order: a read has no context exactly if no document
was announced since the last segment, if there was one; it fails to look a document up exactly if
the last one announced since then is not in that segment; and otherwise it is determined by that
document, of which the four kinds of reads show the same texts. -/
theorem reads_after_announcements (announced : List Announcement) (f : Field) (count : Nat) :
    let state := ((Context.leaf fieldListener).announceAll announced (.start count)).2
    ReadsAfter announced f fun kind => ((ExceptT.run (readProvider f kind)).run state).1 := by
  intro state
  have hread : (fun kind => ((ExceptT.run (readProvider f kind)).run state).1) =
      (Place.after announced).read f :=
    congrArg (fun p => Place.read p f) (place_announceAll announced (.start count))
  rw [hread]
  rcases Place.nowhere_or_on announced with hnowhere | ⟨s, doc, hon⟩
  · exact .nowhere hnowhere
  · cases hdoc : s[doc]? with
    | none => exact .beyond hon hdoc
    | some d => exact .on hon hdoc

end Catalogue
