import Catalogue.Proofs.Search.Store

/-! # Searches are bracketed

While a service is used, listeners can be registered between any two requests. A search tells those
that were registered before it that it starts, and in reverse order that it is over, whatever it
answers. All other requests, and searches that get no scope, tell nobody. -/

namespace Catalogue

/-- What is done with a service: a listener is registered, or something is asked. -/
inductive Act (ε : Type) where
  | listen (l : ScopeListener ε)
  | ask (request : Request)

def Request.searched? : Request → Option (Query × Nat)
  | .search query limit => some (query, limit)
  | .explain query limit => some (query, limit)
  | _ => none

/-- The listeners that are registered after an act, given those before it. A service that is opened
again has none. -/
def Act.registered {ε : Type} (listeners : List (ScopeListener ε)) :
    Act ε → List (ScopeListener ε)
  | .listen l => listeners ++ [l]
  | .ask .reopen => []
  | .ask _ => listeners

/-- The segments that a search for so many hits sees in a scope of its own. It gets one if something
is committed, its query has a plan, and it is for some hits. -/
def Service.scope? {ε : Type} (s : Service ε) (query : Query) (limit : Nat) :
    Option (List Segment) := do
  let segments ← s.snapshot
  let _ ← (Plan.ofQuery s.analyzer query).toOption
  if 1 ≤ limit then some segments else none

/-- A search with a scope: the listeners registered before it and the segments it sees. -/
structure ScopedSearch (ε : Type) where
  listeners : List (ScopeListener ε)
  segments : List Segment

/-- The events of a search: each listener hears that it starts, in the order of registration, and
then that it is over, in reverse order. At the end they see the variables of the search. -/
def ScopedSearch.Brackets {ε : Type} (call : ScopedSearch ε) (g : Graph) (events : List ε) : Prop :=
  ∃ vs left, Variables.ofGraph g = .ok vs ∧
    events = call.listeners.map (fun l => l.onEnter call.segments) ++ left ∧
    List.Forall₂ (fun l event => ∃ s, (l.onExit vs s).1 = event) call.listeners.reverse left

namespace Session

variable {ε : Type}

def noted (x : Session ε) : Request → List ε
  | .search query limit => (x.service.search query limit).2
  | .explain query limit => (x.service.explainTop query limit).2
  | _ => []

def act (c : Configuration) (x : Session ε) : Act ε → List ε × Session ε
  | .listen l => ([], ⟨x.index, x.service.listen l⟩)
  | .ask request => (x.noted request, (x.serve c request).2)

def log (c : Configuration) : Session ε → List (Act ε) → List ε
  | _, [] => []
  | x, a :: rest => (x.act c a).1 ++ log c (x.act c a).2 rest

def scope? (x : Session ε) : Act ε → Option (List Segment)
  | .listen _ => none
  | .ask request => request.searched?.bind fun (query, limit) => x.service.scope? query limit

/-- The searches with a scope among acts, in order, where `listeners` are registered before all. -/
def scopedSearches (c : Configuration) :
    Session ε → List (ScopeListener ε) → List (Act ε) → List (ScopedSearch ε)
  | _, _, [] => []
  | x, listeners, a :: rest =>
    ((x.scope? a).map (ScopedSearch.mk listeners)).toList ++
      scopedSearches c (x.act c a).2 (a.registered listeners) rest

end Session

/-! ## One search -/

section

variable {ε : Type} {s : Service ε}

theorem leaveInOrder_notes (vs : Variables) (listeners : List (ScopeListener ε)) (s : ScoreState) :
    List.Forall₂ (fun l event => ∃ s, (l.onExit vs s).1 = event) listeners
      (leaveInOrder vs listeners s) := by
  induction listeners generalizing s with
  | nil => exact .nil
  | cons l rest ih => exact .cons ⟨s, rfl⟩ (ih _)

theorem Service.scope?_eq_some_iff {query : Query} {limit : Nat} {segments : List Segment} :
    s.scope? query limit = some segments ↔ s.snapshot = some segments ∧
      (∃ plan, Plan.ofQuery s.analyzer query = .ok plan) ∧ limit ≠ 0 := by
  unfold scope?
  cases s.snapshot <;> cases Plan.ofQuery s.analyzer query <;>
    simp [Except.toOption, Nat.one_le_iff_ne_zero, and_comm]

/-- A search of an opened service brackets its scope, whatever it answers. -/
theorem Service.Checked.collect_brackets (hs : s.Checked) {query : Query} {limit : Nat}
    {segments : List Segment} (hscope : s.scope? query limit = some segments) {α : Type}
    (each : Each α) :
    (⟨s.listeners, segments⟩ : ScopedSearch ε).Brackets s.graph (collect each s query limit).2 := by
  obtain ⟨hsnapshot, ⟨plan, hplan⟩, hlimit⟩ := scope?_eq_some_iff.mp hscope
  obtain ⟨vs, score, hvs, hscore⟩ := hs.exists_scoreFunction
  have hevents : (collect each s query limit).2 = enterScope s.listeners segments ++
      leaveScope s.listeners vs (runPlan each segments plan limit score vs.start).2 := by
    unfold collect
    simp only [hsnapshot, hplan, hlimit, if_false, hvs, hscore]
  exact ⟨vs, _, hvs, hevents, leaveInOrder_notes vs _ _⟩

/-- A search without a scope tells nobody. -/
theorem Service.collect_silent {query : Query} {limit : Nat} (hscope : s.scope? query limit = none)
    {α : Type} (each : Each α) : (collect each s query limit).2 = [] := by
  unfold collect
  split
  · rfl
  · rename_i segments hsnapshot
    split
    · rfl
    · rename_i plan hplan
      have hlimit : limit = 0 := by
        by_contra hlimit
        have hsome := scope?_eq_some_iff.mpr ⟨hsnapshot, ⟨plan, hplan⟩, hlimit⟩
        rw [hscope] at hsome
        cases hsome
      rw [if_pos hlimit]

end

/-! ## One act -/

section

variable {ε : Type} {c : Configuration} {x : Session ε} {listeners : List (ScopeListener ε)}

/-- A service that was opened with a configuration and has these listeners. -/
structure Session.Registers (c : Configuration) (x : Session ε) (listeners : List (ScopeListener ε)) :
    Prop where
  listeners_eq : x.service.listeners = listeners
  graph_eq : x.service.graph = c.graph
  checked : x.service.Checked

theorem Service.addAs_keeps (outcome : AddOutcome) (index : Index) (s : Service ε) (b : Book) :
    ∃ pending, (s.addAs outcome index b).2.2 = { s with pending } := by
  unfold addAs
  split
  · exact ⟨s.pending, rfl⟩
  · split <;> exact ⟨_, rfl⟩

theorem Service.commitAs_keeps (outcome : CommitOutcome) (index : Index) (s : Service ε) :
    ∃ pending snapshot, (s.commitAs outcome index).2.2 = { s with pending, snapshot } := by
  unfold commitAs
  split
  · exact ⟨s.pending, s.snapshot, rfl⟩
  · cases outcome <;> exact ⟨_, _, rfl⟩

theorem Session.Registers.withPending (h : x.Registers c listeners) (index : Index)
    (pending : Option (List Document)) (snapshot : Option (List Segment)) :
    Session.Registers c ⟨index, { x.service with pending, snapshot }⟩ listeners :=
  ⟨h.listeners_eq, h.graph_eq, h.checked.withPending pending snapshot⟩

/-- Listeners change only by registering one or opening again, and the graph not at all. -/
theorem Session.Registers.act (h : x.Registers c listeners) {index : Index} {s : Service ε}
    (hopens : c.Opens index s) (a : Act ε) :
    (x.act c a).2.Registers c (a.registered listeners) := by
  cases a with
  | listen l =>
      refine ⟨congrArg (· ++ [l]) h.listeners_eq, h.graph_eq, ?_⟩
      exact ⟨h.checked.declared, h.checked.fields, h.checked.entry⟩
  | ask request =>
      cases request with
      | add b outcome =>
          obtain ⟨pending, hadd⟩ := x.service.addAs_keeps outcome x.index b
          simp only [Session.act, Session.serve, hadd]
          exact h.withPending _ pending x.service.snapshot
      | commit outcome =>
          obtain ⟨pending, snapshot, hcommit⟩ := x.service.commitAs_keeps outcome x.index
          simp only [Session.act, Session.serve, hcommit]
          exact h.withPending _ pending snapshot
      | reopen =>
          simp only [Session.act, Session.serve, hopens.create_eq]
          exact ⟨rfl, rfl, hopens.checked _ _⟩
      | search query limit => exact h
      | explain query limit => exact h
      | count => exact h
      | state => exact h

/-- An act with a scope is bracketed, and any other tells nobody. -/
theorem Session.Registers.act_notes (h : x.Registers c listeners) (a : Act ε) :
    ∃ blocks, (x.act c a).1 = blocks.flatten ∧
      List.Forall₂ (fun call block => call.Brackets c.graph block)
        ((x.scope? a).map (ScopedSearch.mk listeners)).toList blocks := by
  have hsearch : ∀ {α : Type} (each : Service.Each α) (query : Query) (limit : Nat),
      ∃ blocks, (Service.collect each x.service query limit).2 = blocks.flatten ∧
        List.Forall₂ (fun call block => call.Brackets c.graph block)
          ((x.service.scope? query limit).map (ScopedSearch.mk listeners)).toList blocks := by
    intro α each query limit
    cases hscope : x.service.scope? query limit with
    | none => exact ⟨[], Service.collect_silent hscope each, .nil⟩
    | some segments =>
        have hbrackets := h.checked.collect_brackets hscope each
        rw [h.listeners_eq, h.graph_eq] at hbrackets
        exact ⟨[_], (List.flatten_singleton).symm, .cons hbrackets .nil⟩
  cases a with
  | listen l => exact ⟨[], rfl, .nil⟩
  | ask request =>
      cases request with
      | search query limit => exact hsearch Service.eachHit query limit
      | explain query limit => exact hsearch Service.eachExplained query limit
      | add b outcome => exact ⟨[], rfl, .nil⟩
      | commit outcome => exact ⟨[], rfl, .nil⟩
      | count => exact ⟨[], rfl, .nil⟩
      | state => exact ⟨[], rfl, .nil⟩
      | reopen => exact ⟨[], rfl, .nil⟩

/-! ## Acts in turn -/

theorem Session.Registers.log_notes (h : x.Registers c listeners) {index : Index} {s : Service ε}
    (hopens : c.Opens index s) (acts : List (Act ε)) :
    ∃ blocks, Session.log c x acts = blocks.flatten ∧
      List.Forall₂ (fun call block => call.Brackets c.graph block)
        (Session.scopedSearches c x listeners acts) blocks := by
  induction acts generalizing x listeners with
  | nil => exact ⟨[], rfl, .nil⟩
  | cons a rest ih =>
      obtain ⟨first, hfirst, hcalls⟩ := h.act_notes a
      obtain ⟨others, hothers, hrest⟩ := ih (h.act hopens a)
      refine ⟨first ++ others, ?_, List.rel_append hcalls hrest⟩
      rw [Session.log, hfirst, hothers, List.flatten_append]

end

/-- While an opened service is used, what listeners note is one block for each search with a scope,
in the order of the searches, and nothing else. -/
theorem searches_bracketed {ε : Type} {c : Configuration} {index : Index} {s : Service ε}
    (hopens : c.Opens index s) (acts : List (Act ε)) :
    ∃ blocks, Session.log c ⟨index, s⟩ acts = blocks.flatten ∧
      List.Forall₂ (fun call block => call.Brackets c.graph block)
        (Session.scopedSearches c ⟨index, s⟩ [] acts) blocks := by
  have hregisters : Session.Registers c ⟨index, s⟩ [] := by
    rw [hopens.service_eq]
    exact ⟨rfl, rfl, hopens.checked _ _⟩
  exact hregisters.log_notes hopens acts

/-! ## Listeners that give their names -/

def ScopeListener.named (name : String) : ScopeListener String where
  onEnter _ := "enter " ++ name
  onExit _ s := ("exit " ++ name, s)

theorem ScopeListener.exits_named {vs : Variables} (names left : List String)
    (h : List.Forall₂ (fun l event => ∃ s, (l.onExit vs s).1 = event)
      (names.map ScopeListener.named) left) : left = names.map ("exit " ++ ·) := by
  induction names generalizing left with
  | nil =>
      cases h
      rfl
  | cons name rest ih =>
      cases h with
      | cons hname hrest =>
          obtain ⟨_, rfl⟩ := hname
          rw [ih _ hrest]
          rfl

theorem ScopedSearch.Brackets.named {names : List String} {segments : List Segment} {g : Graph}
    {events : List String}
    (h : (⟨names.map .named, segments⟩ : ScopedSearch String).Brackets g events) :
    events = names.map ("enter " ++ ·) ++ names.reverse.map ("exit " ++ ·) := by
  obtain ⟨vs, left, _, rfl, hleft⟩ := h
  have hexit := ScopeListener.exits_named names.reverse left (by rwa [List.map_reverse])
  rw [List.map_map, hexit]
  rfl

def Index.untitledSecond : Index := ⟨[[.titled ["Dune"], .titled []]], false⟩

/-- A search that fails, one without a plan, one for nothing, and one that answers, while listeners
come. -/
def Act.untitledSecond : List (Act String) :=
  [.listen (.named "first"), .ask (.search .matchAll 1), .listen (.named "second"),
    .ask (.search (.text "author" "Herbert") 1), .ask (.explain .matchAll 0),
    .ask (.explain (.text "title" "dune") 1)]

theorem searches_bracketed_untitledSecond :
    ∃ s : Service String, Configuration.byTitle.Opens Index.untitledSecond s ∧
      (s.search .matchAll 1).1 = .error (.scoring (.missingField "title" 1)) ∧
      Session.log Configuration.byTitle ⟨Index.untitledSecond, s⟩ Act.untitledSecond =
        ["enter first", "exit first",
          "enter first", "enter second", "exit second", "exit first"] := by
  have hopens : Configuration.byTitle.Opens Index.untitledSecond
      (Configuration.byTitle.service none Index.untitledSecond.snapshot : Service String) :=
    ⟨Graph.declared_titleLength, rfl, rfl, rfl⟩
  refine ⟨_, hopens, rfl, ?_⟩
  obtain ⟨blocks, hlog, hblocks⟩ := searches_bracketed hopens Act.untitledSecond
  have hscoped : Session.scopedSearches Configuration.byTitle ⟨Index.untitledSecond,
      Configuration.byTitle.service none Index.untitledSecond.snapshot⟩ [] Act.untitledSecond =
      [⟨["first"].map .named, Index.untitledSecond.segments⟩,
        ⟨["first", "second"].map .named, Index.untitledSecond.segments⟩] := rfl
  rw [hscoped] at hblocks
  cases hblocks with
  | cons hfirst hrest =>
      cases hrest with
      | cons hsecond hnone =>
          cases hnone
          rw [hlog, hfirst.named, hsecond.named]
          rfl

end Catalogue
