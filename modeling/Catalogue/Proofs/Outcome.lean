import Mathlib.Control.Monad.Basic

/-! # Successes and failures

When a computation that may fail gives a result, or fails. -/

namespace Catalogue

variable {ε δ α β : Type}

theorem ok_bind (a : α) (f : α → Except ε β) : Except.ok a >>= f = f a := rfl

/-- A sequence succeeds if both of its parts do. -/
theorem bind_eq_ok_iff {x : Except ε α} {f : α → Except ε β} {b : β} :
    x >>= f = .ok b ↔ ∃ a, x = .ok a ∧ f a = .ok b := by
  cases x with
  | error e => simp [bind, Except.bind]
  | ok a => simp [bind, Except.bind]

theorem map_eq_ok_iff {x : Except ε α} {f : α → β} {b : β} :
    f <$> x = .ok b ↔ ∃ a, x = .ok a ∧ f a = b := by
  cases x with
  | error e => exact ⟨nofun, nofun⟩
  | ok a => simp

/-- A sequence fails if one of its parts does. -/
theorem bind_eq_error_iff {x : Except ε α} {f : α → Except ε β} {e : ε} :
    x >>= f = .error e ↔ x = .error e ∨ ∃ a, x = .ok a ∧ f a = .error e := by
  cases x with
  | error e => simp [bind, Except.bind]
  | ok a => simp [bind, Except.bind]

theorem mapError_eq_ok_iff {x : Except ε α} {f : ε → δ} {a : α} :
    x.mapError f = .ok a ↔ x = .ok a := by
  cases x with
  | error e =>
      constructor
      · intro h
        cases h
      · intro h
        cases h
  | ok b =>
      change (Except.ok b : Except δ α) = .ok a ↔ _
      rw [Except.ok.injEq, Except.ok.injEq]

theorem toOption_eq_some_iff {x : Except ε α} {a : α} : x.toOption = some a ↔ x = .ok a := by
  cases x with
  | error e => exact ⟨nofun, nofun⟩
  | ok b => exact ⟨fun h => by cases h; rfl, fun h => by cases h; rfl⟩

def errorOf? : Except ε α → Option ε
  | .ok _ => none
  | .error e => some e

theorem errorOf?_ok (a : α) : errorOf? (Except.ok a : Except ε α) = none := rfl

theorem errorOf?_eq_some_iff {x : Except ε α} {e : ε} : errorOf? x = some e ↔ x = .error e := by
  cases x <;> simp [errorOf?]

/-- A sequence fails as its first part does, or else as its second part does, where that does not
depend on the result of the first. -/
theorem errorOf?_bind {x : Except ε α} {f : α → Except ε β} {failure : Option ε}
    (h : ∀ a, x = .ok a → errorOf? (f a) = failure) :
    errorOf? (x >>= f) = (errorOf? x).or failure := by
  cases x with
  | error e => rfl
  | ok a => exact h a rfl

/-- What is made of a result does not change how it fails to be there. -/
theorem errorOf?_bind_pure (x : Except ε α) (f : α → β) :
    errorOf? (x >>= fun a => pure (f a)) = errorOf? x := by
  cases x <;> rfl

/-- What a list of computations gives is what each of them gives. -/
theorem mem_of_mapM_eq_ok {f : α → Except ε β} {as : List α} {bs : List β} {b : β}
    (h : as.mapM f = .ok bs) (hb : b ∈ bs) : ∃ a ∈ as, f a = .ok b := by
  induction as generalizing bs with
  | nil =>
      cases h
      exact absurd hb List.not_mem_nil
  | cons a as ih =>
      rw [List.mapM_cons] at h
      obtain ⟨first, hfirst, h⟩ := bind_eq_ok_iff.mp h
      obtain ⟨rest, hrest, h⟩ := bind_eq_ok_iff.mp h
      cases h
      cases hb with
      | head => exact ⟨a, List.mem_cons_self, hfirst⟩
      | tail _ hb =>
          obtain ⟨a', ha', hresult⟩ := ih hrest hb
          exact ⟨a', List.mem_cons_of_mem a ha', hresult⟩

theorem exists_mapM_eq_ok {f : α → Except ε β} {as : List α}
    (h : ∀ a ∈ as, ∃ b, f a = .ok b) : ∃ bs, as.mapM f = .ok bs := by
  induction as with
  | nil => exact ⟨[], rfl⟩
  | cons a as ih =>
      obtain ⟨b, hb⟩ := h a List.mem_cons_self
      obtain ⟨bs, hbs⟩ := ih fun a' ha' => h a' (List.mem_cons_of_mem a ha')
      refine ⟨b :: bs, ?_⟩
      rw [List.mapM_cons, hb, ok_bind, hbs]
      rfl

theorem mapM_append_of_error {f : α → Except ε β} {as : List α} {e : ε}
    (h : as.mapM f = .error e) (more : List α) : (as ++ more).mapM f = .error e := by
  rw [List.mapM_append, h]
  rfl

theorem mapM_concat_of_error {f : α → Except ε β} {as : List α} {a : α} {e : ε}
    (has : ∀ b ∈ as, ∃ c, f b = .ok c) (ha : f a = .error e) :
    (as ++ [a]).mapM f = .error e := by
  obtain ⟨bs, hbs⟩ := exists_mapM_eq_ok has
  rw [List.mapM_append, hbs, ok_bind, List.mapM_cons, ha]
  rfl

/-! ## Computations that change a state -/

section

variable {σ : Type}

/-- A sequence goes on from where its first part ends, unless that fails. -/
theorem run_bind (e : ExceptT ε (StateM σ) α) (k : α → ExceptT ε (StateM σ) β) (s : σ) :
    (ExceptT.run (e >>= k)).run s =
      match (ExceptT.run e).run s with
      | (.ok a, t) => (ExceptT.run (k a)).run t
      | (.error x, t) => (.error x, t) := by
  change (ExceptT.bindCont k ((ExceptT.run e).run s).1).run ((ExceptT.run e).run s).2 = _
  rcases (ExceptT.run e).run s with ⟨_ | _, _⟩ <;> rfl

theorem run_get_bind (k : σ → ExceptT ε (StateM σ) β) (s : σ) :
    (ExceptT.run (get >>= k)).run s = (ExceptT.run (k s)).run s :=
  rfl

/-- What follows a computation without changing the state does not show in the state. -/
theorem run_bind_state {e : ExceptT ε (StateM σ) α} {k : α → ExceptT ε (StateM σ) β}
    (hk : ∀ a s, ((ExceptT.run (k a)).run s).2 = s) (s : σ) :
    ((ExceptT.run (e >>= k)).run s).2 = ((ExceptT.run e).run s).2 := by
  rw [run_bind]
  rcases (ExceptT.run e).run s with ⟨x | a, t⟩
  · rfl
  · exact hk a t

end

end Catalogue
