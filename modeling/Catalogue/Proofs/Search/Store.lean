import Catalogue.Proofs.Search.Committed

/-! # The service is a store of books

What a service keeps in its writer, its index and its snapshot comes to two lists: the books that
were committed and those that were added since. A successful addition makes the second longer, a
successful commit moves it to the first, and closing drops it. Nothing else changes either, and
every reply is determined by them. -/

namespace Catalogue

/-- The books that were committed, if anything was, and those added since, if any were. -/
structure Store where
  committed : Option (List Book)
  pending : Option (List Book)

/-- What is asked of a service, with what the index makes of it. -/
inductive Request where
  | add (b : Book) (outcome : AddOutcome)
  | commit (outcome : CommitOutcome)
  | search (query : Query) (limit : Nat)
  | explain (query : Query) (limit : Nat)
  | count
  | state
  | reopen

inductive Reply where
  | done (result : Except SearchError Unit)
  | hits (result : Except SearchError (List Hit))
  | explained (result : Except SearchError (List (Hit × Explanation)))
  | count (number : Nat)
  | state (state : ServiceState)

def Configuration.writer (c : Configuration) : Except WriterError Unit :=
  Service.checkWriter ⟨[], c.busy⟩ c.settings.heapSize

namespace Store

def opened (index : Index) (books : List Book) : Store :=
  ⟨if index.segments.isEmpty then none else some books, none⟩

def state (t : Store) : ServiceState :=
  if t.pending.isSome then .writing else if t.committed.isSome then .committed else .noWriter

/-- What a store replies to a request, and the store after it. -/
inductive Step (c : Configuration) : Store → Request → Reply → Store → Prop where
  | added {t b outcome} : t.pending.isSome ∨ c.writer = .ok () ∧ outcome.opened = .ok () →
      outcome.taken = .ok () →
      Step c t (.add b outcome) (.done (.ok ()))
        { t with pending := some (t.pending.getD [] ++ [b]) }
  | unwritable {t b outcome e} : t.pending = none → c.writer = .error e →
      Step c t (.add b outcome) (.done (.error (.index (.write e)))) t
  | unopened {t b outcome reason} : t.pending = none → c.writer = .ok () →
      outcome.opened = .error reason →
      Step c t (.add b outcome) (.done (.error (.index (.write (.failed reason))))) t
  | untaken {t b outcome reason} : t.pending.isSome → outcome.taken = .error reason →
      Step c t (.add b outcome) (.done (.error (.index (.write (.failed reason))))) t
  | kept {t books} : t.pending = some books →
      Step c t (.commit (.kept (.ok ()) (.ok ()))) (.done (.ok ()))
        ⟨some (t.committed.getD [] ++ books), none⟩
  | failed {t books reason} : t.pending = some books →
      Step c t (.commit (.failed reason)) (.done (.error (.index (.commit reason)))) t
  | nothingPending {t outcome} : t.pending = none →
      Step c t (.commit outcome) (.done (.error .noPendingWriter)) t
  | searched {t query limit r} : Searched c query limit t.committed r →
      Step c t (.search query limit) (.hits r) t
  | explained {t query limit plain r} : Searched c query limit t.committed plain →
      ExplainedAs r plain → Step c t (.explain query limit) (.explained r) t
  | counted {t} : Step c t .count (.count (t.committed.getD []).length) t
  | looked {t} : Step c t .state (.state t.state) t
  | reopened {t} : Step c t .reopen (.done (.ok ())) { t with pending := none }

/-- The replies of a store to requests, and the store after the last. -/
inductive Run (c : Configuration) : Store → List Request → List Reply → Store → Prop where
  | nil {t} : Run c t [] [] t
  | cons {t t' t'' request reply requests replies} : Step c t request reply t' →
      Run c t' requests replies t'' → Run c t (request :: requests) (reply :: replies) t''

/-- What fails changes neither list. -/
theorem Step.eq_of_error {c : Configuration} {t t' : Store} {request : Request} {e : SearchError}
    (h : t.Step c request (.done (.error e)) t') : t' = t := by
  cases h <;> rfl

end Store

/-- A search fails for nothing being committed exactly when nothing is, whatever is asked. -/
theorem Searched.eq_notCommitted_iff {c : Configuration} {query : Query} {limit : Nat}
    {committed : Option (List Book)} {r : Except SearchError (List Hit)}
    (h : Searched c query limit committed r) : r = .error .notCommitted ↔ committed = none := by
  cases h with
  | notCommitted => simp
  | unplanned => simp
  | nothing => simp
  | answered _ _ _ _ hanswer =>
      cases hanswer <;> simp

/-! ## Services and what is asked of them -/

structure Session (ε : Type) where
  index : Index
  service : Service ε

namespace Session

variable {ε : Type}

def serve (c : Configuration) (x : Session ε) : Request → Reply × Session ε
  | .add b outcome =>
    let (result, index, service) := x.service.addAs outcome x.index b
    (.done result, ⟨index, service⟩)
  | .commit outcome =>
    let (result, index, service) := x.service.commitAs outcome x.index
    (.done result, ⟨index, service⟩)
  | .search query limit => (.hits (x.service.search query limit).1, x)
  | .explain query limit => (.explained (x.service.explainTop query limit).1, x)
  | .count => (.count x.service.documentCount, x)
  | .state => (.state x.service.state, x)
  | .reopen =>
    let index := x.service.close x.index
    match Service.create c.stemmers index c.settings c.graph c.score with
    | .ok service => (.done (.ok ()), ⟨index, service⟩)
    | .error e => (.done (.error e), ⟨index, x.service⟩)

def replies (c : Configuration) : Session ε → List Request → List Reply
  | _, [] => []
  | x, request :: rest => (x.serve c request).1 :: replies c (x.serve c request).2 rest

/-- What is relied on when something is asked: a writer that was just opened takes its first
document, what an index keeps it can merge and load, and documents can be numbered. -/
def Fair (x : Session ε) : Request → Prop
  | .add _ outcome =>
      x.service.pending = none → outcome.opened = .ok () → outcome.taken = .ok ()
  | .commit (.kept merged loaded) => merged = .ok () ∧ loaded = .ok ()
  | .search _ _ => x.service.documentCount ≤ noMoreDocs
  | .explain _ _ => x.service.documentCount ≤ noMoreDocs
  | _ => True

def FairFor (c : Configuration) : Session ε → List Request → Prop
  | _, [] => True
  | x, request :: rest => x.Fair request ∧ FairFor c (x.serve c request).2 rest

end Session

/-! ## Opening -/

section

variable {ε : Type} {c : Configuration}

/-- A service that was opened with a configuration. -/
structure Configuration.Opens (c : Configuration) (index : Index) (s : Service ε) : Prop where
  declared : c.graph.Declared
  created : Service.create c.stemmers index c.settings c.graph c.score = .ok s
  language : Analysis.Language.ofName c.settings.language = .ok c.language
  busy : index.locked = c.busy

/-- Opening the index again gives the service anew, which sees what the index has then. -/
theorem Configuration.Opens.create_eq {index : Index} {s : Service ε} (h : c.Opens index s)
    (other : Index) :
    Service.create c.stemmers other c.settings c.graph c.score =
      .ok (c.service none other.snapshot : Service ε) := by
  obtain ⟨language, hlanguage, hrest⟩ := bind_eq_ok_iff.mp h.created
  obtain ⟨_, hfields, hrest⟩ := bind_eq_ok_iff.mp hrest
  obtain ⟨_, hentry, hrest⟩ := bind_eq_ok_iff.mp hrest
  cases hrest
  cases (mapError_eq_ok_iff.mp hlanguage).symm.trans h.language
  refine bind_eq_ok_iff.mpr ⟨_, hlanguage, ?_⟩
  refine bind_eq_ok_iff.mpr ⟨_, hfields, ?_⟩
  exact bind_eq_ok_iff.mpr ⟨_, hentry, rfl⟩

theorem Configuration.Opens.service_eq {index : Index} {s : Service ε} (h : c.Opens index s) :
    s = c.service none index.snapshot :=
  Except.ok.inj (h.created.symm.trans (h.create_eq index))

theorem Configuration.Opens.checked {index : Index} {s : Service ε} (h : c.Opens index s)
    (pending : Option (List Document)) (snapshot : Option (List Segment)) :
    (c.service pending snapshot : Service ε).Checked := by
  have hs : s.Checked := (Service.Opened.create h.declared h.created).checked
  rw [h.service_eq] at hs
  exact hs.withPending pending snapshot

end

/-! ## A session keeps what its store has -/

section

variable {ε : Type} {c : Configuration} {t : Store} {index : Index}

/-- The session that stands for a store, over an index: the writer has the books that are pending,
and searches see the index as it is. -/
def Configuration.session (c : Configuration) (t : Store) (index : Index) : Session ε :=
  ⟨index, c.service (t.pending.map (List.map c.document)) index.snapshot⟩

/-- An index holds what a store has: its books are the committed ones, it has segments once
something was committed, and a writer has it while books are pending. -/
structure Index.Holds (index : Index) (c : Configuration) (t : Store) : Prop where
  books : index.segments.flatten.Perm ((t.committed.getD []).map c.document)
  shown : index.segments.isEmpty = t.committed.isNone
  locked : index.locked = (c.busy || t.pending.isSome)
  free : t.pending.isSome → c.busy = false

/-- What a session makes of a request is what its store makes of it, and its index holds what the
store has then. -/
def Serves (c : Configuration) (t : Store) (request : Request) (result : Reply × Session ε) : Prop :=
  ∃ t' index', t.Step c request result.1 t' ∧ result.2 = c.session t' index' ∧ index'.Holds c t'

/-! ### Adding -/

theorem checkWriter_eq (h : index.locked = c.busy) :
    Service.checkWriter index c.settings.heapSize = c.writer := by
  unfold Configuration.writer Service.checkWriter
  rw [h]

theorem free_of_writer (h : c.writer = .ok ()) : c.busy = false := by
  unfold Configuration.writer Service.checkWriter at h
  cases hbusy : c.busy with
  | false => rfl
  | true =>
      simp only [hbusy, if_true] at h
      cases h

/-- Without a writer, one is opened if the configuration allows it and the index makes no
difficulty. -/
theorem takeWriter_none (hlocked : index.locked = c.busy) (opened : Except String Unit)
    (snapshot : Option (List Segment)) :
    (c.service none snapshot : Service ε).takeWriter opened index =
      c.writer.bind fun _ => (opened.mapError WriterError.failed).bind fun _ =>
        .ok ([], { index with locked := true }) := by
  rw [← checkWriter_eq hlocked]
  rfl

theorem Index.Holds.add (h : index.Holds c t) {b : Book} {outcome : AddOutcome}
    (hfair : (c.session t index : Session ε).Fair (.add b outcome)) :
    Serves c t (.add b outcome) ((c.session t index : Session ε).serve c (.add b outcome)) := by
  obtain ⟨opened, taken⟩ := outcome
  obtain ⟨committed, pending⟩ := t
  cases pending with
  | some books =>
      cases taken with
      | error reason => exact ⟨_, index, .untaken rfl rfl, rfl, h⟩
      | ok _ =>
          have hdocs : (books ++ [b]).map c.document = books.map c.document ++ [c.document b] :=
            List.map_append
          refine ⟨_, index, .added (.inl rfl) rfl, ?_, h.books, h.shown, h.locked, h.free⟩
          simp only [Configuration.session, Option.getD_some, Option.map_some, hdocs]
          rfl
  | none =>
      -- The lock is that of another writer, so that a new one depends on the configuration alone.
      have hlocked : index.locked = c.busy := h.locked.trans (Bool.or_false _)
      have htake := takeWriter_none (ε := ε) hlocked opened index.snapshot
      unfold Serves
      simp only [Session.serve, Service.addAs, Configuration.session, Option.map_none]
      cases hwriter : c.writer with
      | error e =>
          simp only [htake, hwriter]
          exact ⟨_, index, .unwritable rfl hwriter, rfl, h⟩
      | ok _ =>
          cases opened with
          | error reason =>
              simp only [htake, hwriter]
              exact ⟨_, index, .unopened rfl hwriter rfl, rfl, h⟩
          | ok _ =>
              -- Only here could a refusal leave a writer behind that has nothing.
              cases hfair rfl rfl
              simp only [htake, hwriter]
              exact ⟨_, { index with locked := true }, .added (.inr ⟨hwriter, rfl⟩) rfl, rfl,
                h.books, h.shown, by simp, fun _ => free_of_writer hwriter⟩

/-! ### Committing -/

theorem Index.push_perm (index : Index) (docs : Segment) :
    (index.push docs).segments.flatten.Perm (index.segments.flatten ++ docs) := by
  have hsorted := (List.mergeSort_perm (index.segments ++ [docs])
    fun a b => decide (b.length ≤ a.length)).flatten
  rw [List.flatten_append, List.flatten_singleton] at hsorted
  exact hsorted

theorem Index.push_isEmpty (index : Index) (docs : Segment) :
    (index.push docs).segments.isEmpty = false := by
  have hlength : (index.push docs).segments.length = (index.segments ++ [docs]).length :=
    List.length_mergeSort _
  rw [List.length_append, List.length_singleton] at hlength
  cases hsegments : (index.push docs).segments with
  | nil => simp [hsegments] at hlength
  | cons segment rest => rfl

/-- What was kept is shown once it is loaded, even if finishing merges fails. -/
theorem commitAs_kept (index : Index) {s : Service ε} {docs : List Document}
    (h : s.pending = some docs) (merged : Except String Unit) :
    s.commitAs (.kept merged (.ok ())) index =
      (merged.mapError fun reason => .index (.commit reason),
        { index.push docs with locked := false },
        { s with pending := none, snapshot := some (index.push docs).segments }) := by
  unfold Service.commitAs Service.publish
  rw [h]
  cases merged <;> rfl

theorem Index.Holds.commit (h : index.Holds c t) {outcome : CommitOutcome}
    (hfair : (c.session t index : Session ε).Fair (.commit outcome)) :
    Serves c t (.commit outcome) ((c.session t index : Session ε).serve c (.commit outcome)) := by
  obtain ⟨committed, pending⟩ := t
  cases pending with
  | none => exact ⟨_, index, .nothingPending rfl, rfl, h⟩
  | some books =>
      cases outcome with
      | failed reason => exact ⟨_, index, .failed rfl, rfl, h⟩
      | kept merged loaded =>
          obtain ⟨rfl, rfl⟩ := hfair
          have hbooks : (index.push (books.map c.document)).segments.flatten.Perm
              ((committed.getD [] ++ books).map c.document) := by
            rw [List.map_append]
            exact (index.push_perm _).trans (h.books.append_right _)
          have hshown := index.push_isEmpty (books.map c.document)
          have hcommit := commitAs_kept index
            (show (c.session ⟨committed, some books⟩ index : Session ε).service.pending =
              some (books.map c.document) from rfl) (.ok ())
          unfold Serves Session.serve
          simp only [Configuration.session] at hcommit ⊢
          simp only [hcommit]
          refine ⟨_, { index.push (books.map c.document) with locked := false }, .kept rfl, ?_,
            hbooks, hshown, ?_, fun hnone => by cases hnone⟩
          · simp only [Configuration.service, Index.snapshot, hshown]
            rfl
          · simpa using (h.free rfl).symm

/-! ### Looking -/

theorem Index.Holds.snapshot_eq (h : index.Holds c t) :
    index.snapshot = t.committed.map fun _ => index.segments := by
  rw [Index.snapshot, h.shown]
  cases t.committed <;> rfl

theorem Index.Holds.documentCount_eq (h : index.Holds c t) :
    (c.session t index : Session ε).service.documentCount = (t.committed.getD []).length := by
  have hlength := h.books.length_eq
  rw [List.length_map] at hlength
  unfold Service.documentCount
  simp only [Configuration.session, Configuration.service, h.snapshot_eq]
  cases hcommitted : t.committed with
  | none => rfl
  | some books =>
      rw [hcommitted] at hlength
      exact hlength

theorem Index.Holds.state_eq (h : index.Holds c t) :
    (c.session t index : Session ε).service.state = t.state := by
  unfold Service.state Store.state
  simp only [Configuration.session, Configuration.service, h.snapshot_eq, Option.isSome_map]

/-- A search sees the committed books, whatever is pending. -/
theorem Index.Holds.searched (h : index.Holds c t)
    (hchecked : (c.session t index : Session ε).service.Checked)
    (hsize : (c.session t index : Session ε).service.documentCount ≤ noMoreDocs)
    (query : Query) (limit : Nat) :
    Searched c query limit t.committed
      ((c.session t index : Session ε).service.search query limit).1 := by
  have hsnapshot := h.snapshot_eq
  have hbooks := h.books
  cases hcommitted : t.committed with
  | none =>
      rw [hcommitted] at hsnapshot
      rw [Service.search, Service.collect_notCommitted _ hsnapshot]
      exact .notCommitted
  | some books =>
      rw [hcommitted] at hsnapshot hbooks
      simp only [Configuration.session, hsnapshot, Option.map_some] at hchecked hsize ⊢
      exact hchecked.searched hbooks hsize query limit

theorem explained_of_size {s : Service ε} (hs : s.Checked) (hsize : s.documentCount ≤ noMoreDocs)
    (query : Query) (limit : Nat) :
    ExplainedAs (s.explainTop query limit).1 (s.search query limit).1 := by
  refine hs.explained (fun segments hsegments => size_le_of_flatten ?_) query limit
  unfold Service.documentCount at hsize
  rw [hsegments] at hsize
  exact hsize

/-! ### Opening again -/

theorem Index.Holds.close (h : index.Holds c t) :
    ((c.session t index : Session ε).service.close index).Holds c { t with pending := none } := by
  obtain ⟨committed, pending⟩ := t
  cases pending with
  | none => exact h
  | some books =>
      have hlocked : false = (c.busy || false) := by simpa using (h.free rfl).symm
      exact ⟨h.books, h.shown, hlocked, fun hnone => by cases hnone⟩

theorem Index.Holds.reopen (h : index.Holds c t) {first : Index} {s : Service ε}
    (hopens : c.Opens first s) :
    Serves c t .reopen ((c.session t index : Session ε).serve c .reopen) := by
  unfold Serves Session.serve
  simp only [hopens.create_eq]
  exact ⟨{ t with pending := none }, _, .reopened, rfl, h.close⟩

/-! ### Requests in turn -/

/-- A session serves every request as its store does. -/
theorem Index.Holds.serve (h : index.Holds c t) {first : Index} {s : Service ε}
    (hopens : c.Opens first s) {request : Request}
    (hfair : (c.session t index : Session ε).Fair request) :
    Serves c t request ((c.session t index : Session ε).serve c request) := by
  have hchecked : (c.session t index : Session ε).service.Checked := hopens.checked _ _
  cases request with
  | add b outcome => exact h.add hfair
  | commit outcome => exact h.commit hfair
  | search query limit =>
      exact ⟨t, index, .searched (h.searched hchecked hfair query limit), rfl, h⟩
  | explain query limit =>
      exact ⟨t, index, .explained (h.searched hchecked hfair query limit)
        (explained_of_size hchecked hfair query limit), rfl, h⟩
  | count =>
      refine ⟨t, index, ?_, rfl, h⟩
      simp only [Session.serve, h.documentCount_eq]
      exact .counted
  | state =>
      refine ⟨t, index, ?_, rfl, h⟩
      simp only [Session.serve, h.state_eq]
      exact .looked
  | reopen => exact h.reopen hopens

/-- A session answers requests in turn as its store does. -/
theorem Index.Holds.replies (h : index.Holds c t) {first : Index} {s : Service ε}
    (hopens : c.Opens first s) {requests : List Request}
    (hfair : (c.session t index : Session ε).FairFor c requests) :
    ∃ t', t.Run c requests ((c.session t index : Session ε).replies c requests) t' := by
  induction requests generalizing t index with
  | nil => exact ⟨t, .nil⟩
  | cons request rest ih =>
      -- The session after a step is again that of a store, so the run goes on from there.
      obtain ⟨t', index', hstep, hsession, hholds⟩ := h.serve hopens hfair.1
      have hrest := hfair.2
      rw [hsession] at hrest
      obtain ⟨t'', hrun⟩ := ih hholds hrest
      rw [← hsession] at hrun
      exact ⟨t'', .cons hstep hrun⟩

end

def Configuration.byTitle : Configuration :=
  ⟨⟨fun _ word => word⟩, ⟨"english", 15000000⟩, .english, Graph.titleLength, "length", false⟩

end Catalogue
