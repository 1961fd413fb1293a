import Catalogue.Score.Operation

/-!
# The operations that settings can name
-/

namespace Catalogue

/-- Functions by name, in the order of their names. -/
structure Registry where
  entries : List (String × Operation)

namespace Registry

/-- No functions. -/
def empty : Registry := ⟨[]⟩

/-- Puts an entry in place by its name, instead of one of the same name. -/
def insertEntry (name : String) (f : Operation) :
    List (String × Operation) → List (String × Operation)
  | [] => [(name, f)]
  | (n, g) :: rest =>
    if name = n then (name, f) :: rest
    else if name < n then (name, f) :: (n, g) :: rest
    else (n, g) :: insertEntry name f rest

/-- Registers a function, instead of any of the same name. -/
def register (r : Registry) (name : String) (f : Operation) : Registry :=
  ⟨insertEntry name f r.entries⟩

/-- The function of a name. -/
def get? (r : Registry) (name : String) : Option Operation := r.entries.lookup name

/-- The registered names, in order. -/
def names (r : Registry) : List String := r.entries.map Prod.fst

/-- The number of characters of a text. -/
def length : Operation := ⟨[.string], .float, fun (s, _) => s.length.toFloat32⟩

/-- The sum of two numbers. -/
def sum : Operation := ⟨[.float, .float], .float, fun (a, b, _) => a + b⟩

/-- The product of two numbers. -/
def product : Operation := ⟨[.float, .float], .float, fun (a, b, _) => a * b⟩

/-- The number of values in a list. -/
def count : Operation := ⟨[.strings], .float, fun (values, _) => values.length.toFloat32⟩

/-- Always one hundred. -/
def constantScore : Operation := ⟨[], .float, fun _ => 100.0⟩

/-- The built-in functions. -/
def builtin : Registry :=
  empty.register "length" length
    |>.register "sum" sum
    |>.register "product" product
    |>.register "count" count
    |>.register "constant_score" constantScore

theorem lookup_cons_eq_if (n other : String) (f : Operation) (es : List (String × Operation)) :
    List.lookup other ((n, f) :: es) = if other = n then some f else es.lookup other := by
  rw [List.lookup_cons]
  by_cases h : other = n
  · rw [if_pos h, beq_iff_eq.2 h]
  · rw [if_neg h, beq_eq_false_iff_ne.2 h]

/-- What is registered is found, and nothing else changes. -/
theorem lookup_insertEntry (name other : String) (f : Operation) (es : List (String × Operation)) :
    (insertEntry name f es).lookup other = if other = name then some f else es.lookup other := by
  induction es with
  | nil => exact lookup_cons_eq_if name other f []
  | cons e rest ih =>
    obtain ⟨n, g⟩ := e
    simp only [insertEntry]
    split
    · subst_vars
      rw [lookup_cons_eq_if, lookup_cons_eq_if]
      by_cases h : other = n <;> simp [h]
    · split
      · rw [lookup_cons_eq_if]
      · rename_i hne _
        rw [lookup_cons_eq_if, lookup_cons_eq_if, ih]
        by_cases h : other = n
        · have hname : other ≠ name := fun e => hne (e.symm.trans h)
          rw [if_pos h, if_neg hname, if_pos h]
        · rw [if_neg h, if_neg h]

theorem get?_register (r : Registry) (name other : String) (f : Operation) :
    (r.register name f).get? other = if other = name then some f else r.get? other :=
  lookup_insertEntry name other f r.entries

end Registry

end Catalogue
