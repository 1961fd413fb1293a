import Catalogue.Toml.Section

/-! # Tables that grow

A line of a document changes the table that the names before it lead to, and nothing around it. So
a document is kept as what stands around such a table, and each line says what the table becomes. -/

namespace Catalogue.Toml.Section

/-! ## Names and what they stand for -/

theorem lookup_cons_if {α : Type} (name other : String) (a : α) (ms : List (String × α)) :
    ((name, a) :: ms).lookup other = if other = name then some a else ms.lookup other := by
  by_cases h : other = name
  · rw [h, if_pos rfl, List.lookup_cons_self]
  · rw [if_neg h, List.lookup_cons, beq_false_of_ne h]

theorem lookup_put (name other : String) (s : Section) (ms : Members) :
    (put name s ms).lookup other = if other = name then some s else ms.lookup other := by
  induction ms with
  | nil => rw [put, lookup_cons_if]
  | cons m ms ih =>
      obtain ⟨n, t⟩ := m
      rw [put]
      split
      · next hn => rw [hn, lookup_cons_if, lookup_cons_if]; split <;> rfl
      · next hn =>
          rw [lookup_cons_if, lookup_cons_if, ih]
          split <;> split <;> simp_all

theorem put_put (name : String) (s t : Section) (ms : Members) :
    put name s (put name t ms) = put name s ms := by
  induction ms with
  | nil => simp [put]
  | cons m ms ih =>
      obtain ⟨n, u⟩ := m
      by_cases h : n = name <;> simp [put, h, ih]

theorem put_eq_append {name : String} (s : Section) {ms : Members} (h : ms.lookup name = none) :
    put name s ms = ms ++ [(name, s)] := by
  induction ms with
  | nil => rfl
  | cons m ms ih =>
      obtain ⟨n, u⟩ := m
      rw [lookup_cons_if] at h
      split at h
      · cases h
      · next hn => rw [put, if_neg (Ne.symm hn), ih h, List.cons_append]

/-! ## Tables and what stands around them -/

/-- Where names lead in a document: what stands there, and what the document becomes when that
changes. -/
def Leads (found : Members) (path : List String) (origin : Origin) (ms : Members)
    (changed : Members → Members) : Prop :=
  ∀ change, within .implied change path .declared found = (change origin ms).map changed

/-- A document around a table: names lead to the table, whatever it holds. -/
def Around (path : List String) (origin : Origin) (document : Members → Members) : Prop :=
  ∀ ms, Leads (document ms) path origin ms document

theorem within_append (origin : Origin) (change : Change) (path rest : List String)
    (found : Origin) (ms : Members) :
    within origin change (path ++ rest) found ms =
      within origin (within origin change rest) path found ms := by
  induction path generalizing found ms with
  | nil => rfl
  | cons name path ih => simp only [List.cons_append, within, ih]

variable {found all ms : Members} {path : List String} {origin inner : Origin} {name : String}
  {changed document : Members → Members}

theorem Around.table (h : Around path origin document) (name : String) (inner : Origin)
    (all : Members) :
    Around (path ++ [name]) inner fun ms => document (put name (.table inner ms) all) := by
  intro ms change
  rw [within_append, h, within, lookup_put, if_pos rfl]
  cases h : change inner ms <;> simp [within, h, put_put]

theorem Around.tables (h : Around path origin document) (name : String) (elder : List Toml)
    (all : Members) :
    Around (path ++ [name]) .declared fun ms => document (put name (.tables elder ms) all) := by
  intro ms change
  rw [within_append, h, within, lookup_put, if_pos rfl]
  cases h : change .declared ms <;> simp [within, h, put_put]

/-! ## What lines and headers do -/

theorem Around.add (h : Around path origin document) (horigin : origin ≠ .dotted)
    (hnew : ms.lookup name = none) (v : Toml) :
    within .implied (addAt [] name v) path .declared (document ms) =
      some (document (ms ++ [(name, .value v)])) := by
  rw [h, addAt]
  simp [within, Section.add, horigin, hnew]

theorem Leads.declare (h : Leads found path origin ms changed) (hnew : ms.lookup name = none) :
    within .implied (declare name) path .declared found =
      some (changed (put name (.table .declared []) ms)) := by
  rw [h, Section.declare, hnew, put_eq_append _ hnew]
  rfl

theorem Leads.declareNext (h : Leads found path origin ms changed) (hnew : ms.lookup name = none) :
    within .implied (declareNext name) path .declared found =
      some (changed (put name (.tables [] []) ms)) := by
  rw [h, Section.declareNext, hnew, put_eq_append _ hnew]
  rfl

theorem Around.declareNext (h : Around path origin document) (elder : List Toml)
    (last : Members) :
    within .implied (declareNext name) path .declared
        (document (put name (.tables elder last) ms)) =
      some (document (put name (.tables (elder ++ [.table (membersToToml last)]) []) ms)) := by
  rw [h, Section.declareNext, lookup_put, if_pos rfl]
  simp [put_put]

/-! ## Values -/

def values (members : List (String × Toml)) : Members := members.map fun m => (m.1, .value m.2)

theorem lookup_membersToToml (name : String) (ms : Members) :
    (membersToToml ms).lookup name = (ms.lookup name).map toToml := by
  induction ms with
  | nil => rfl
  | cons m ms ih =>
      rw [membersToToml, lookup_cons_if, lookup_cons_if, ih]
      split <;> rfl

end Catalogue.Toml.Section
