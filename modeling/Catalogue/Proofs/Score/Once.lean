import Catalogue.Proofs.Score.Demand
import Catalogue.Proofs.Score.Soundness
import Mathlib.Data.List.Nodup

/-! # Each variable is computed at most once

Between two announcements a variable that has its value keeps it, and so do its inputs. What was
done since the first of them is therefore one note for each kept value. A read adds the values that
it asks for and that there are; failures leave nothing behind but what succeeded before them. -/

namespace Catalogue

open Relation

def Graph.eventAt (g : Graph) (i : Nat) : ScoreEvent :=
  match (g.variables[i]?).map Variable.source with
  | some (.leaf _ _) => .loaded i
  | _ => .applied i

def ScoreState.HasKept (s : ScoreState) (i : Nat) : Prop := ∃ v, s.kept? i = some v

/-- What was done since some earlier notes is one note for each kept value. Kept values are right,
and the inputs of what is kept are kept. -/
structure Ledger (g : Graph) (before : List ScoreEvent) (s : ScoreState) : Prop where
  keeps : s.Keeps g.direct
  size : s.cells.length = g.variables.length
  closed : ∀ i, s.HasKept i → ∀ j ∈ g.inputsAt i, s.HasKept j
  noted : ∃ done, s.events = done ++ before ∧ done.Nodup ∧
    ∀ e, e ∈ done ↔ ∃ i, s.HasKept i ∧ e = g.eventAt i

/-- A later state keeps what an earlier one kept, and what was asked for and succeeds. -/
structure Extends (g : Graph) (before : List ScoreEvent) (s t : ScoreState) (asked : Nat → Prop) :
    Prop where
  steady : Steady g.direct s t
  ledger : Ledger g before t
  kept : ∀ i, t.HasKept i ↔ s.HasKept i ∨ asked i ∧ g.Succeeds s.place i

/-- An evaluation that asks for certain positions, depending on where the search stands. -/
def Asks {α : Type} (g : Graph) (e : Evaluation ScoreState α) (asked : Place → Nat → Prop) : Prop :=
  ∀ before s, Ledger g before s → Extends g before s ((ExceptT.run e).run s).2 (asked s.place)

section

variable {g : Graph} {before : List ScoreEvent} {s t u : ScoreState} {i j : Nat}

theorem Graph.eventAt_injective (h : g.eventAt i = g.eventAt j) : i = j := by
  unfold eventAt at h
  split at h <;> split at h <;> cases h <;> rfl

theorem Graph.eventAt_derived {v : Variable} {inputs : List Nat} {f : Operation}
    (hv : g.variables[i]? = some v) (hs : v.source = .derived inputs f) :
    g.eventAt i = .applied i := by
  simp only [eventAt, hv, Option.map_some, hs]

theorem Graph.eventAt_leaf {v : Variable} {field : String} {kind : FieldKind}
    (hv : g.variables[i]? = some v) (hs : v.source = .leaf field kind) :
    g.eventAt i = .loaded i := by
  simp only [eventAt, hv, Option.map_some, hs]

theorem Graph.eventAt_eq_applied (h : ScoreEvent.applied i = g.eventAt j) : i = j := by
  unfold eventAt at h
  split at h <;> cases h
  rfl

/-! ## Kept values -/

theorem ScoreState.hasKept_keep (hi : i < s.cells.length) (v : Value) :
    (s.keep i s.generation v).HasKept j ↔ s.HasKept j ∨ j = i := by
  have hcell : (s.keep i s.generation v).cells[j]? =
      if i = j then some (some (s.generation, v)) else s.cells[j]? := by
    rw [keep, List.getElem?_set, if_pos hi]
  constructor
  · rintro ⟨w, hw⟩
    have hkept := kept?_eq_some_iff.mp hw
    rw [hcell] at hkept
    by_cases hij : i = j
    · exact .inr hij.symm
    · rw [if_neg hij] at hkept
      exact .inl ⟨w, kept?_eq_some_iff.mpr hkept⟩
  · intro h
    by_cases hij : i = j
    · exact ⟨v, kept?_eq_some_iff.mpr (hcell.trans (if_pos hij))⟩
    · obtain ⟨w, hw⟩ := h.resolve_right (Ne.symm hij)
      exact ⟨w, kept?_eq_some_iff.mpr
        (hcell.trans ((if_neg hij).trans (kept?_eq_some_iff.mp hw)))⟩

theorem not_succeeds_of_error {p : Place} {e : ScoreError} (h : g.direct p i (.error e)) :
    ¬g.Succeeds p i := by
  rintro ⟨v, hv⟩
  cases hv.symm.trans h

/-! ## Extending one ledger -/

theorem Extends.refl (h : Ledger g before s) {asked : Nat → Prop}
    (hasked : ∀ i, asked i → g.Succeeds s.place i → s.HasKept i) :
    Extends g before s s asked where
  steady := .refl h.keeps
  ledger := h
  kept i := ⟨.inl, fun hi => hi.elim id fun hi => hasked i hi.1 hi.2⟩

theorem Extends.congr {asked others : Nat → Prop} (h : Extends g before s t asked)
    (hsame : ∀ i, g.Succeeds s.place i → (others i ↔ asked i)) : Extends g before s t others where
  steady := h.steady
  ledger := h.ledger
  kept i := by
    rw [h.kept i]
    exact or_congr_right (and_congr_left fun hi => (hsame i hi).symm)

theorem Extends.trans {asked others : Nat → Prop} (h : Extends g before s t asked)
    (h' : Extends g before t u others) : Extends g before s u fun i => asked i ∨ others i where
  steady := h.steady.trans h'.steady
  ledger := h'.ledger
  kept i := by
    rw [h'.kept i, h.kept i, h.steady.place, or_and_right, or_assoc]

/-- A variable whose inputs were asked for and that was not kept gets its value and its note. -/
theorem Extends.keep (hg : g.Wired) (h : Extends g before s t (g.Demands s.place (g.inputsAt i)))
    (hi : i < g.variables.length) (hnew : ¬s.HasKept i) {v : Value}
    (hv : g.direct s.place i (.ok v))
    (hsteady : Steady g.direct s ((t.note (g.eventAt i)).keep i s.generation v)) :
    Extends g before s ((t.note (g.eventAt i)).keep i s.generation v) (g.Demands s.place [i]) := by
  have hkeep : ∀ j, ((t.note (g.eventAt i)).keep i s.generation v).HasKept j ↔
      t.HasKept j ∨ j = i := by
    intro j
    have hcell : i < (t.note (g.eventAt i)).cells.length := h.ledger.size.symm ▸ hi
    have hkept := ScoreState.hasKept_keep (j := j) hcell v
    rwa [show (t.note (g.eventAt i)).generation = s.generation from h.steady.generation] at hkept
  have habsent : ¬t.HasKept i := by
    rw [h.kept i]
    rintro (hold | ⟨hasked, _⟩)
    · exact hnew hold
    · exact Nat.lt_irrefl i (hg.demands_lt hasked)
  refine ⟨hsteady, ⟨hsteady.keeps, ?_, ?_, ?_⟩, ?_⟩
  · exact List.length_set.trans h.ledger.size
  · intro j hj k hk
    rw [hkeep] at hj ⊢
    rcases hj with hj | rfl
    · exact .inl (h.ledger.closed j hj k hk)
    · -- All inputs succeeded, so each was asked for and is kept.
      have hinputs := hg.inputs_succeed ⟨v, hv⟩
      exact .inl ((h.kept k).mpr (.inr ⟨Graph.demands_of_mem hinputs hk, hinputs k hk⟩))
  · obtain ⟨done, hevents, hnodup, hdone⟩ := h.ledger.noted
    refine ⟨g.eventAt i :: done, congrArg (g.eventAt i :: ·) hevents, ?_, fun e => ?_⟩
    · refine List.nodup_cons.mpr ⟨fun hmem => ?_, hnodup⟩
      obtain ⟨j, hj, he⟩ := (hdone _).mp hmem
      exact habsent (Graph.eventAt_injective he ▸ hj)
    · rw [List.mem_cons, hdone]
      constructor
      · rintro (rfl | ⟨j, hj, rfl⟩)
        · exact ⟨i, (hkeep i).mpr (.inr rfl), rfl⟩
        · exact ⟨j, (hkeep j).mpr (.inl hj), rfl⟩
      · rintro ⟨j, hj, rfl⟩
        rcases (hkeep j).mp hj with hj | rfl
        · exact .inr ⟨j, hj, rfl⟩
        · exact .inl rfl
  · intro j
    rw [hkeep, h.kept, Graph.demands_single_iff]
    constructor
    · rintro ((hj | ⟨hj, hsucceeds⟩) | rfl)
      · exact .inl hj
      · exact .inr ⟨.inr hj, hsucceeds⟩
      · exact .inr ⟨.inl rfl, v, hv⟩
    · rintro (hj | ⟨rfl | hj, hsucceeds⟩)
      · exact .inl (.inl hj)
      · exact .inr rfl
      · exact .inl (.inr ⟨hj, hsucceeds⟩)

end

/-! ## Providers -/

section

variable {α β : Type} {g : Graph} {asked : Place → Nat → Prop}

theorem Asks.then {e : Evaluation ScoreState α} {k : α → Evaluation ScoreState β}
    (h : Asks g e asked) (hk : ∀ a s, ((ExceptT.run (k a)).run s).2 = s) :
    Asks g (e >>= k) asked := by
  intro before s hs
  rw [run_bind_state hk]
  exact h before s hs

theorem noting_run (e : ScoreEvent) (p : Provider ScoreState) (s : ScoreState) :
    (ExceptT.run (noting e p)).run s =
      match (ExceptT.run p).run s with
      | (.ok v, t) => (.ok v, t.note e)
      | (.error x, t) => (.error x, t) := by
  rw [noting, run_bind]
  rcases (ExceptT.run p).run s with ⟨_ | _, _⟩ <;> rfl

/-- A variable asks for itself and for what its inputs ask for; kept, it asks for nothing new. -/
theorem Asks.memoized (hg : g.Wired) {p : Provider ScoreState} {i : Nat}
    (hi : i < g.variables.length) (hp : Provides g.direct p i)
    (h : Asks g p fun place => g.Demands place (g.inputsAt i)) :
    Asks g (memoized i (noting (g.eventAt i) p)) fun place => g.Demands place [i] := by
  intro before s hs
  have hnoted : Provides g.direct (noting (g.eventAt i) p) i := hp.noting
  have hsteady := (hnoted.memoized s hs.keeps).2
  cases hkept : s.kept? i with
  | some v =>
      rw [memoized_run_kept hkept]
      refine .refl hs fun j hj _ => hj.of_closed (fun k hk => ?_) hs.closed
      obtain rfl := List.mem_singleton.mp hk
      exact ⟨v, hkept⟩
  | none =>
      have hextends := h before s hs
      have hresult := (hp s hs.keeps).1
      rw [memoized_run_asked hkept, noting_run] at hsteady ⊢
      rcases hrun : (ExceptT.run p).run s with ⟨x | v, t⟩
      · rw [hrun] at hextends hresult
        refine hextends.congr fun j hj => ?_
        have hne : j ≠ i := fun hji => not_succeeds_of_error hresult (hji ▸ hj)
        exact Graph.demands_single_iff.trans (or_iff_right hne)
      · rw [hrun] at hextends hresult hsteady
        have hnew : ¬s.HasKept i := by
          rintro ⟨w, hw⟩
          cases hkept.symm.trans hw
        exact hextends.keep hg hi hnew hresult hsteady

section

variable {name : String} {type : ValueType} {types : List ValueType} {p : Provider ScoreState}
  {rest : Evaluation ScoreState (Arguments types)} {s t : ScoreState}

theorem Arguments.cons_state_error {x : ScoreError}
    (h : (ExceptT.run p).run s = (.error x, t)) :
    ((ExceptT.run (Arguments.cons name type p rest)).run s).2 = t := by
  have hrun := run_bind p (fun v => ExceptT.mk (Pure.pure (argument name type v)) >>=
    fun a => rest >>= fun as => Pure.pure (a, as)) s
  rw [h] at hrun
  exact congrArg Prod.snd hrun

theorem Arguments.cons_state_ok {v : Value} {a : type.Carrier}
    (h : (ExceptT.run p).run s = (.ok v, t)) (ha : argument name type v = .ok a) :
    ((ExceptT.run (Arguments.cons name type p rest)).run s).2 = ((ExceptT.run rest).run t).2 := by
  have hrun := run_bind p (fun v => ExceptT.mk (Pure.pure (argument name type v)) >>=
    fun a => rest >>= fun as => Pure.pure (a, as)) s
  have hargument : (ExceptT.run (ExceptT.mk (Pure.pure (argument name type v)) >>=
      fun a => rest >>= fun as => Pure.pure (a, as))).run t =
        (ExceptT.run (rest >>= fun as => Pure.pure (a, as))).run t := by
    rw [ha]
    rfl
  have hkeep := run_bind_state (e := rest) (k := fun as => Pure.pure (a, as))
    (fun _ _ => rfl) t
  rw [h] at hrun
  exact (congrArg Prod.snd (hrun.trans hargument)).trans hkeep

end

/-- Providers of the inputs of a function, evaluated in order, ask for what the inputs ask for. -/
theorem Asks.arguments (hg : g.Wired) (name : String) {types : List ValueType} {inputs : List Nat}
    {ps : List (Provider ScoreState)}
    (hps : List.Forall₂ (fun q j => Provides g.direct q j ∧
      Asks g q fun place => g.Demands place [j]) ps inputs)
    (htypes : List.Forall₂ (fun j t => g.typeAt? j = some t) inputs types) :
    ∃ e, Arguments.evaluate? name types ps = some e ∧
      Asks g e fun place => g.Demands place inputs := by
  induction htypes generalizing ps with
  | nil =>
      cases hps
      exact ⟨_, rfl, fun before s hs => .refl hs fun j hj => absurd hj Graph.not_demands_nil⟩
  | @cons i t inputs types ht _ ih =>
      cases hps with
      | @cons p _ ps _ hp hps =>
          obtain ⟨hprovides, hasks⟩ := hp
          obtain ⟨e, he, hrest⟩ := ih hps
          refine ⟨Arguments.cons name t p e, by simp only [Arguments.evaluate?, he, Option.map],
            fun before s hs => ?_⟩
          have hextends := hasks before s hs
          have hresult := (hprovides s hs.keeps).1
          rcases hrun : (ExceptT.run p).run s with ⟨x | v, u⟩
          · rw [hrun] at hextends hresult
            rw [Arguments.cons_state_error hrun]
            refine hextends.congr fun j _ => Graph.demands_cons_iff.trans (or_iff_left ?_)
            exact fun hlater => not_succeeds_of_error hresult hlater.1
          · rw [hrun] at hextends hresult
            have htype : v.type = t := Option.some.inj ((hg.evaluate?_type hresult).symm.trans ht)
            cases hargument : argument name t v with
            | error x => exact absurd hargument (argument_ne_error htype)
            | ok a =>
                have hmore := hrest before u hextends.ledger
                have hsucceeds : g.Succeeds s.place i := ⟨v, hresult⟩
                rw [Arguments.cons_state_ok hrun hargument]
                rw [hextends.steady.place] at hmore
                refine (hextends.trans hmore).congr fun j _ => Graph.demands_cons_iff.trans ?_
                exact or_congr_right (and_iff_right hsucceeds)

/-- The provider of a variable, bound to providers that ask for what the variables before it ask
for, asks for what the variable asks for. -/
theorem Asks.provider (hg : g.Wired) {v : Variable} {earlier : List (Provider ScoreState)}
    {p : Provider ScoreState} (hv : g.variables[earlier.length]? = some v)
    (hp : v.provider earlier = .ok p)
    (hearlier : ∀ j q, earlier[j]? = some q →
      Provides g.direct q j ∧ Asks g q fun place => g.Demands place [j]) :
    Asks g p fun place => g.Demands place [earlier.length] := by
  have hlt := (List.getElem?_eq_some_iff.mp hv).1
  have rules := hg.direct_rules
  cases hs : v.source with
  | leaf field kind =>
      cases hf : Field.ofName? field with
      | none =>
          simp only [Variable.provider, hs, hf] at hp
          cases hp
      | some f =>
          have hread : Provides g.direct (readProvider f kind) earlier.length :=
            (Answers.readProvider f kind).mono fun place r hr => hr ▸ rules.leaf hv hs hf
          have hasks : Asks g (readProvider f kind) fun place =>
              g.Demands place (g.inputsAt earlier.length) := by
            rw [Graph.inputsAt_leaf hv hs]
            exact fun before s hs => .refl hs fun j hj => absurd hj Graph.not_demands_nil
          have hmemoized := Asks.memoized hg hlt hread hasks
          simp only [Variable.provider, hs, hf] at hp
          cases hp
          rwa [Graph.eventAt_leaf hv hs] at hmemoized
  | derived inputs f =>
      obtain ⟨qs, hqs, hall⟩ := EvaluationRules.mapM_getElem? (hg.input_lt hv hs)
      have hps := hall.imp fun q j hq => hearlier j q hq
      have htypes := ((hg _ v hv).derived hs).2.imp fun _ _ h => h.2
      obtain ⟨inner, hinner, hprovides⟩ :=
        rules.bind? v.name hv hs (hps.imp fun _ _ h => h.1) htypes
      obtain ⟨e, he, harguments⟩ := Asks.arguments hg v.name hps htypes
      have hbound : inner = f.onArguments e := by
        simp only [Operation.bind?, he, Option.map, Option.some.injEq] at hinner
        exact hinner.symm
      have hasks : Asks g inner fun place => g.Demands place (g.inputsAt earlier.length) := by
        rw [Graph.inputsAt_derived hv hs, hbound]
        exact harguments.then fun _ _ => rfl
      have hmemoized := Asks.memoized hg hlt hprovides hasks
      have hfound : (inputs.mapM (earlier[·]?)).bind (f.bind? v.name) = some inner := by
        rw [hqs]
        exact hinner
      simp only [Variable.provider, hs, hfound] at hp
      cases hp
      rwa [Graph.eventAt_derived hv hs] at hmemoized

/-- The providers of the variables before stay where they are. -/
theorem providersAfter_keeps {earlier ps : List (Provider ScoreState)} {rest : List Variable}
    (h : providersAfter earlier rest = .ok ps) {j : Nat} {q : Provider ScoreState}
    (hq : earlier[j]? = some q) : ps[j]? = some q := by
  induction rest generalizing earlier with
  | nil =>
      cases h
      exact hq
  | cons v rest ih =>
      obtain ⟨p, _, hrest⟩ := bind_eq_ok_iff.mp h
      have hlt := (List.getElem?_eq_some_iff.mp hq).1
      exact ih hrest ((List.getElem?_append_left hlt).trans hq)

/-- The providers of a graph ask for what their variables ask for. -/
theorem Asks.providersAfter (hg : g.Wired) {done rest : List Variable}
    {earlier ps : List (Provider ScoreState)} (hsplit : g.variables = done ++ rest)
    (hlen : earlier.length = done.length) (hps : providersAfter earlier rest = .ok ps)
    (hprovides : ∀ (j : Nat) q, ps[j]? = some q → Provides g.direct q j)
    (hearlier : ∀ (j : Nat) q, earlier[j]? = some q → Asks g q fun place => g.Demands place [j]) :
    ∀ (j : Nat) q, ps[j]? = some q → Asks g q fun place => g.Demands place [j] := by
  induction rest generalizing done earlier with
  | nil =>
      cases hps
      exact hearlier
  | cons v rest ih =>
      obtain ⟨p, hp, hrest⟩ := bind_eq_ok_iff.mp hps
      have hv : g.variables[earlier.length]? = some v := by
        rw [hsplit, hlen, List.getElem?_append_right (Nat.le_refl _), Nat.sub_self]
        rfl
      have hasks := Asks.provider hg hv hp fun j q hq =>
        ⟨hprovides j q (providersAfter_keeps hps hq), hearlier j q hq⟩
      have hsplit' : g.variables = (done ++ [v]) ++ rest := by
        rw [hsplit, List.append_assoc]
        rfl
      refine ih hsplit' (by simp [hlen]) hrest fun j q hq => ?_
      rcases Graph.getElem?_concat_eq_some hq with hq | ⟨rfl, rfl⟩
      · exact hearlier j q hq
      · exact hasks

end

/-! ## Reads -/

inductive Variables.Read where
  | value (name : String)
  | score (name : String)

def Variables.afterRead (vs : Variables) (s : ScoreState) : Read → ScoreState
  | .value name => (vs.readValue name s).2
  | .score name => (vs.readScore name s).2

def Variables.afterReads (vs : Variables) (s : ScoreState) (reads : List Read) : ScoreState :=
  reads.foldl vs.afterRead s

/-- The position that a read evaluates. A name that is not declared, or that is no entry point where
one is asked for, evaluates nothing. -/
def Graph.root? (g : Graph) : Variables.Read → Option Nat
  | .value name => g.position? name
  | .score name =>
    match g.checkEntry name with
    | .ok _ => g.position? name
    | .error _ => none

/-- A variable is demanded by reads: one of them names it, or reaches it as an input, in the order
of arguments and with all earlier arguments succeeding. -/
def Graph.DemandedBy (g : Graph) (p : Place) (reads : List Variables.Read) (i : Nat) : Prop :=
  ∃ r ∈ reads, ∃ root, g.root? r = some root ∧ g.Demands p [root] i

/-- The states in which the reads between two announcements begin: before any announcement, or right
after one; the fields may move until the first read. -/
inductive Variables.Begins (vs : Variables) : ScoreState → Prop where
  | start : vs.Begins vs.start
  | announced {s : ScoreState} : vs.Reaches s → vs.Begins s.invalidate
  | enter {s : ScoreState} (segment : Segment) : vs.Begins s → vs.Begins (s.fieldsEnter segment)
  | moveTo {s : ScoreState} (number : Nat) : vs.Begins s → vs.Begins (s.fieldsMoveTo number)

section

variable {g : Graph} {vs : Variables} {before : List ScoreEvent} {s : ScoreState}

theorem Variables.asks_of_ofGraph (hg : g.Wired) (hvs : Variables.ofGraph g = .ok vs) {i : Nat}
    {p : Provider ScoreState} (hp : vs.providers[i]? = some p) :
    Asks g p fun place => g.Demands place [i] := by
  have hfaithful := hg.direct_rules.faithful hg hvs
  obtain ⟨ps, hps, hmade⟩ := bind_eq_ok_iff.mp hvs
  cases hmade
  have hsplit : g.variables = [] ++ g.variables := rfl
  have hnone : ∀ (j : Nat) q, ([] : List (Provider ScoreState))[j]? = some q →
      Asks g q fun place => g.Demands place [j] := fun j q hq => by cases hq
  exact Asks.providersAfter hg hsplit rfl hps hfaithful.answer hnone i p hp

/-- The score of an entry point changes the state as its variable does. -/
theorem Variables.asks_of_scoreFunction (hg : g.Wired) (hvs : Variables.ofGraph g = .ok vs)
    {name : String} {score : Variables.ScoreFunction} (h : vs.scoreFunction name = .ok score) :
    ∃ i, g.position? name = some i ∧ Asks g score fun place => g.Demands place [i] := by
  have hfaithful := hg.direct_rules.faithful hg hvs
  obtain ⟨_, _, hscore⟩ := bind_eq_ok_iff.mp h
  cases hp : vs.value? name with
  | none =>
      rw [hp] at hscore
      cases hscore
  | some p =>
      rw [hp] at hscore
      obtain ⟨i, hi, hp⟩ := Option.bind_eq_some_iff.mp hp
      refine ⟨i, hfaithful.graph ▸ hi, ?_⟩
      cases hscore
      refine (asks_of_ofGraph hg hvs hp).then fun v s => ?_
      cases v.as? .float <;> rfl

/-- A read asks for what evaluating its position asks for. -/
theorem Ledger.afterRead (hg : g.Wired) (hvs : Variables.ofGraph g = .ok vs)
    (hs : Ledger g before s) (r : Variables.Read) :
    Extends g before s (vs.afterRead s r) fun i =>
      ∃ root, g.root? r = some root ∧ g.Demands s.place [root] i := by
  have hfaithful := hg.direct_rules.faithful hg hvs
  have hnothing : g.root? r = none → Extends g before s s fun i =>
      ∃ root, g.root? r = some root ∧ g.Demands s.place [root] i := by
    intro hroot
    refine .refl hs ?_
    rintro i ⟨root, hsome, _⟩
    cases hroot.symm.trans hsome
  have hevaluates : ∀ {t root}, g.root? r = some root →
      Extends g before s t (g.Demands s.place [root]) → Extends g before s t fun i =>
        ∃ root, g.root? r = some root ∧ g.Demands s.place [root] i := by
    intro t root hroot hextends
    refine hextends.congr fun i _ => ?_
    simp only [hroot, Option.some.injEq, exists_eq_left']
  cases r with
  | value name =>
      cases hp : vs.value? name with
      | none =>
          simp only [Variables.afterRead, Variables.readValue, hp]
          exact hnothing (hfaithful.value?_eq_none_iff.mp hp)
      | some p =>
          simp only [Variables.afterRead, Variables.readValue, hp]
          obtain ⟨i, hi, hp⟩ := Option.bind_eq_some_iff.mp hp
          exact hevaluates (hfaithful.graph ▸ hi) (Variables.asks_of_ofGraph hg hvs hp before s hs)
  | score name =>
      cases he : g.checkEntry name with
      | error e =>
          simp only [Variables.afterRead, Variables.readScore, hfaithful.scoreFunction_eq_error he]
          exact hnothing (by simp only [Graph.root?, he])
      | ok _ =>
          obtain ⟨_, score, _, hscore, _⟩ := hfaithful.scoreFunction_answers hg.direct_rules he
          obtain ⟨i, hi, hasks⟩ := Variables.asks_of_scoreFunction hg hvs hscore
          simp only [Variables.afterRead, Variables.readScore, hscore]
          exact hevaluates (by simp only [Graph.root?, he, hi]) (hasks before s hs)

/-- Reads ask for what is demanded by them. -/
theorem Ledger.afterReads (hg : g.Wired) (hvs : Variables.ofGraph g = .ok vs)
    (hs : Ledger g before s) (reads : List Variables.Read) :
    Extends g before s (vs.afterReads s reads) (g.DemandedBy s.place reads) := by
  induction reads generalizing s with
  | nil =>
      refine .refl hs ?_
      rintro i ⟨r, hr, _⟩
      cases hr
  | cons r rest ih =>
      have hfirst := hs.afterRead hg hvs r
      have hrest := ih hfirst.ledger
      rw [hfirst.steady.place] at hrest
      refine (hfirst.trans hrest).congr fun i _ => ?_
      simp only [Graph.DemandedBy, List.exists_mem_cons_iff]

theorem Variables.Reaches.size (hg : g.Wired) (hvs : vs.Faithful g g.typed) (hs : vs.Reaches s) :
    s.cells.length = vs.providers.length := by
  induction hs with
  | start => exact List.length_replicate
  | enter segment _ ih => exact ih
  | moveTo number _ ih => exact ih
  | invalidate _ ih => exact ih
  | value name hs ih => exact (hvs.readValue_steady (hs.keeps hg hvs) name).size.trans ih
  | score name hs ih =>
      exact (hvs.readScore_steady hg.typed_rules (hs.keeps hg hvs) name).size.trans ih

/-- Where the reads between two announcements begin, nothing is kept. -/
theorem Variables.Begins.fresh (hg : g.Wired) (hvs : vs.Faithful g g.typed) (hs : vs.Begins s) :
    s.cells.length = vs.providers.length ∧ s.Keeps fun _ _ _ => False := by
  induction hs with
  | start => exact ⟨List.length_replicate, .start _⟩
  | @announced s hs =>
      have hsize := hs.size hg hvs
      exact ⟨hsize, (hs.keeps hg hvs).announce s.place⟩
  | enter segment _ ih => exact ⟨ih.1, ih.2.past, ih.2.kept⟩
  | moveTo number _ ih => exact ⟨ih.1, ih.2.past, ih.2.kept⟩

theorem Variables.Begins.ledger (hg : g.Wired) (hvs : Variables.ofGraph g = .ok vs)
    (hs : vs.Begins s) : Ledger g s.events s ∧ ∀ i, ¬s.HasKept i := by
  have hfaithful := hg.typed_rules.faithful hg hvs
  obtain ⟨hsize, hkeeps⟩ := hs.fresh hg hfaithful
  have hnone : ∀ i, ¬s.HasKept i := fun i ⟨v, hv⟩ => hkeeps.kept hv
  refine ⟨⟨⟨hkeeps.past, fun hv => (hkeeps.kept hv).elim⟩, hsize.trans hfaithful.count,
    fun i hi => absurd hi (hnone i), [], rfl, .nil, fun e => ⟨fun he => ?_, ?_⟩⟩, hnone⟩
  · cases he
  · rintro ⟨i, hi, _⟩
    exact absurd hi (hnone i)

end

/-- What reads note, latest first: each variable once, a derived one if it is demanded and all its
inputs have values, a leaf if it is demanded and its field is read. -/
structure ComputedOnce (g : Graph) (p : Place) (reads : List Variables.Read)
    (done : List ScoreEvent) : Prop where
  once : ∀ e, done.count e ≤ 1
  applied : ∀ {i v inputs f}, g.variables[i]? = some v → v.source = .derived inputs f →
    (done.count (.applied i) = 1 ↔
      g.DemandedBy p reads i ∧ ∀ j ∈ inputs, g.Succeeds p j)
  loaded : ∀ {i v field kind}, g.variables[i]? = some v → v.source = .leaf field kind →
    (done.count (.loaded i) = 1 ↔ g.DemandedBy p reads i ∧ g.Succeeds p i)
  needed : ∀ i, .applied i ∈ done →
    ∃ r ∈ reads, ∃ root, g.root? r = some root ∧ ReflTransGen g.Uses root i

/-- From an announcement on, whatever is read in whatever order, each variable is computed at most
once: the function of a derived variable is applied exactly once if the variable is demanded and all
its inputs have values, and else not at all; a leaf is read with success at most once; and no
function is applied that the reads do not depend on. -/
theorem computed_once {g : Graph} {vs : Variables} (hg : g.Declared)
    (hvs : Variables.ofGraph g = .ok vs) {s : ScoreState} (hs : vs.Begins s)
    (reads : List Variables.Read) :
    ∃ done, (vs.afterReads s reads).events = done ++ s.events ∧
      ComputedOnce g s.place reads done := by
  obtain ⟨hledger, hnone⟩ := hs.ledger hg.wired hvs
  have hextends := hledger.afterReads hg.wired hvs reads
  obtain ⟨done, hevents, hnodup, hdone⟩ := hextends.ledger.noted
  have hmem : ∀ e, e ∈ done ↔
      ∃ i, (g.DemandedBy s.place reads i ∧ g.Succeeds s.place i) ∧ e = g.eventAt i := by
    intro e
    simp only [hdone, hextends.kept, hnone, false_or]
  have hnoted : ∀ i, g.eventAt i ∈ done ↔
      g.DemandedBy s.place reads i ∧ g.Succeeds s.place i := by
    intro i
    rw [hmem]
    constructor
    · rintro ⟨j, hj, he⟩
      exact Graph.eventAt_injective he ▸ hj
    · exact fun hi => ⟨i, hi, rfl⟩
  have hcount : ∀ e, done.count e = 1 ↔ e ∈ done := fun e =>
    ⟨fun hone => List.count_pos_iff.mp (by omega), List.count_eq_one_of_mem hnodup⟩
  refine ⟨done, hevents, List.nodup_iff_count_le_one.mp hnodup, ?_, ?_, ?_⟩
  · intro i v inputs f hv hsource
    rw [hcount, ← Graph.eventAt_derived hv hsource, hnoted,
      hg.wired.succeeds_derived_iff hv hsource]
  · intro i v field kind hv hsource
    rw [hcount, ← Graph.eventAt_leaf hv hsource, hnoted]
  · intro i hi
    obtain ⟨j, ⟨⟨r, hr, root, hroot, hdemands⟩, _⟩, he⟩ := (hmem _).mp hi
    obtain rfl := Graph.eventAt_eq_applied he
    obtain ⟨k, hk, hreach⟩ := hdemands.reachable
    obtain rfl := List.mem_singleton.mp hk
    exact ⟨r, hr, k, hroot, hreach⟩

theorem computed_once_titleLength : ∃ vs, Variables.ofGraph Graph.titleLength = .ok vs ∧
    ∃ done, (vs.afterReads ((vs.start.fieldsEnter [.titled ["Dune"]]).fieldsMoveTo 0)
        [.score "length", .value "title", .value "length"]).events = done ∧
      done.count (.applied 1) = 1 ∧ done.count (.loaded 0) = 1 := by
  refine ⟨_, rfl, ?_⟩
  obtain ⟨done, hevents, honce⟩ := computed_once Graph.declared_titleLength rfl
    ((Variables.Begins.start.enter [.titled ["Dune"]]).moveTo 0)
    [.score "length", .value "title", .value "length"]
  have htitle : Graph.titleLength.Succeeds ⟨some [.titled ["Dune"]], some 0⟩ 0 := ⟨_, rfl⟩
  refine ⟨done, hevents.trans (List.append_nil done), (honce.applied rfl rfl).mpr ⟨?_, ?_⟩,
    (honce.loaded rfl rfl).mpr ⟨?_, htitle⟩⟩
  · exact ⟨.value "length", by simp, 1, rfl, .here⟩
  · exact fun j hj => List.mem_singleton.mp hj ▸ htitle
  · exact ⟨.value "title", by simp, 0, rfl, .here⟩

end Catalogue
