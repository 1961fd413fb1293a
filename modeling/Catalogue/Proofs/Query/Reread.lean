import Catalogue.Command.Search
import Catalogue.Proofs.Query.Accepted

/-! # What is accepted can be written and accepted again

A query that a text was read as is written as another text, which is read as the same query, unless
a boost is infinite: that is written `null`, and a text with `null` for a boost is refused. -/

namespace Catalogue

open Json

/-! ## The scan of a written query -/

/-- The scan of a number, as its own text shows it. -/
def shown (n : Number) : Scan := (Scan.ofText (String.ofList n.text)).value

def RereadsDouble (x : Float) : Prop :=
  x.isFinite = true → readText readDouble (text (ofDouble x)) = .ok x

def RereadsSingle (x : Float32) : Prop :=
  x.isFinite = true → readText readSingle (text (ofSingle x)) = .ok x

theorem readText_eq_ok {α : Type} {read : Reader α} {s : String} {a : α}
    (h : readText read s = .ok a) :
    read (.text depthLimit) (Scan.ofText s).value = .ok a ∧ (Scan.ofText s).trailing = false := by
  obtain ⟨b, hread, h⟩ := bind_eq_ok_iff.mp h
  dsimp only at h
  split at h
  · cases h
  · next htrailing =>
      cases h
      exact ⟨hread, Bool.eq_false_iff.mpr htrailing⟩

theorem readText_of_reads {α : Type} {read : Reader α} {cs : List Char} {scan : Scan}
    (h : Reads cs scan) : readText read (String.ofList cs) = read (.text depthLimit) scan := by
  rw [readText, h.ofText]
  simp only
  cases read (.text depthLimit) scan <;> rfl

theorem shown_natural (n : UInt64) : shown (.natural n) = .number (some (.natural n)) := by
  rw [shown, (reads_natural n).ofText]

theorem readDouble_eq_ok {form : Form} {scan : Scan} {x : Float} (h : readDouble form scan = .ok x) :
    ∃ n, scan = .number (some n) := by
  unfold readDouble at h
  split at h
  · exact ⟨_, rfl⟩
  · exact absurd h (unexpected_ne_ok _ _)

theorem readSingle_eq_ok {form : Form} {scan : Scan} {x : Float32}
    (h : readSingle form scan = .ok x) : ∃ n, scan = .number (some n) := by
  unfold readSingle at h
  split at h
  · exact ⟨_, rfl⟩
  · exact absurd h (unexpected_ne_ok _ _)

/-- The text of a number that is read as a number scans as one, and is read from its scan. -/
theorem reads_shown {α : Type} {read : Reader α} {n : Number} {a : α}
    (hform : ∀ form scan, read form scan = read (.text depthLimit) scan)
    (hnumber : ∀ form scan, read form scan = .ok a → ∃ m, scan = .number (some m))
    (h : readText read (String.ofList n.text) = .ok a) :
    Reads n.text (shown n) ∧ ∀ form, read form (shown n) = .ok a := by
  obtain ⟨hvalue, htrailing⟩ := readText_eq_ok h
  obtain ⟨m, hm⟩ := hnumber _ _ hvalue
  have hdocument : Scan.ofText (String.ofList n.text) = ⟨.number (some m), false⟩ := by
    cases hscan : Scan.ofText (String.ofList n.text) with
    | mk value trailing =>
        rw [hscan] at hm htrailing
        cases hm
        cases htrailing
        rfl
  refine ⟨?_, fun form => (hform form _).trans hvalue⟩
  rw [shown, hm]
  exact reads_of_ofText hdocument

theorem RereadsDouble.scan {x : Float} (h : RereadsDouble x) :
    EachNumber (fun n => Reads n.text (shown n)) (ofDouble x) ∧
      (x.isFinite = true → ReadsDouble shown x) := by
  by_cases hx : x.isFinite = true
  · have hread := h hx
    simp only [ReadsDouble, ofDouble, hx, if_true, text, compact, scanWith, EachNumber] at hread ⊢
    obtain ⟨hreads, hvalue⟩ := reads_shown (fun _ _ => rfl) (fun _ _ => readDouble_eq_ok) hread
    exact ⟨hreads, fun _ => hvalue⟩
  · simp only [ofDouble, hx]
    exact ⟨trivial, nofun⟩

theorem RereadsSingle.scan {x : Float32} (h : RereadsSingle x) :
    EachNumber (fun n => Reads n.text (shown n)) (ofSingle x) ∧
      (x.isFinite = true → ReadsSingle shown x) := by
  by_cases hx : x.isFinite = true
  · have hread := h hx
    simp only [ReadsSingle, ofSingle, hx, if_true, text, compact, scanWith, EachNumber] at hread ⊢
    obtain ⟨hreads, hvalue⟩ := reads_shown (fun _ _ => rfl) (fun _ _ => readSingle_eq_ok) hread
    exact ⟨hreads, fun _ => hvalue⟩
  · simp only [ofSingle, hx]
    exact ⟨trivial, nofun⟩

/-! ## Numbers of a query in what is written -/

theorem Term.eachNumber_toJson {p : Number → Prop} {t : Term}
    (h : t.Each fun x => EachNumber p (ofDouble x)) : EachNumber p t.toJson := by
  cases t with
  | string s => exact ⟨trivial, trivial⟩
  | boolean b => exact ⟨trivial, trivial⟩
  | number x => exact ⟨h, trivial⟩
  | point place => exact ⟨⟨h.1, h.2, trivial⟩, trivial⟩

mutual
theorem Query.eachNumber_toJson {p : Number → Prop} (hcount : ∀ n, p (.natural n)) : (q : Query) →
    q.Each (fun x => EachNumber p (ofDouble x)) (fun b => EachNumber p (ofSingle b)) →
    EachNumber p q.toJson
  | .matchAll, _ => trivial
  | .text .., _ => ⟨⟨trivial, trivial, trivial⟩, trivial⟩
  | .term _ _, h => ⟨⟨trivial, Term.eachNumber_toJson h, trivial⟩, trivial⟩
  | .boolean clauses minimum, h =>
    ⟨⟨eachNumber_clausesToJson hcount clauses h, hcount minimum, trivial⟩, trivial⟩
  | .constantScore q _, h | .boosted q _, h =>
    ⟨⟨q.eachNumber_toJson hcount h.1, h.2, trivial⟩, trivial⟩
  | .range _, h => ⟨⟨trivial, Term.eachNumber_toJson h.1, Term.eachNumber_toJson h.2, trivial,
      trivial, trivial⟩, trivial⟩

theorem eachNumber_clausesToJson {p : Number → Prop} (hcount : ∀ n, p (.natural n)) :
    (clauses : List (Occur × Query)) →
    EachClause (fun x => EachNumber p (ofDouble x)) (fun b => EachNumber p (ofSingle b)) clauses →
    EachOfItems p (clausesToJson clauses)
  | [], _ => trivial
  | (_, q) :: rest, h =>
    ⟨⟨q.eachNumber_toJson hcount h.1, trivial⟩, eachNumber_clausesToJson hcount rest h.2⟩
end

/-! ## Boosts that are not finite

An infinite boost is written `null`, which no reader of a number takes. -/

section Refused

variable {number : Number → Scan}

theorem readSingle_ofSingle_eq_ok {form : Form} {x y : Float32}
    (h : readSingle form (scanWith number (ofSingle x)) = .ok y) : x.isFinite = true := by
  cases hx : x.isFinite with
  | true => rfl
  | false =>
      rw [ofSingle, if_neg (by rw [hx]; exact Bool.false_ne_true)] at h
      cases h

theorem pairShape_read_eq_ok {α β : Type} (expected : String) {first second : String}
    {readFirst : Reader α} {readSecond : Reader β} {form inner : Form} {a b : Scan}
    {found : Option α × Option β} (hne : second ≠ first) (henter : form.enter = .ok inner)
    (h : (pairShape expected first second readFirst readSecond).read form
      (.object [(some first, a), (some second, b)] .closed) = .ok found) :
    ∃ x y, readFirst inner a = .ok x ∧ readSecond inner b = .ok y := by
  cases hx : readFirst inner a with
  | error e =>
      simp [Shape.read, Shape.readMembers, pairShape, fill, henter, hx, ok_bind] at h
      cases h
  | ok x =>
      cases hy : readSecond inner b with
      | error e =>
          simp [Shape.read, Shape.readMembers, pairShape, fill, hne, henter, hx, hy, ok_bind] at h
          cases h
      | ok y => exact ⟨x, y, rfl, rfl⟩

theorem booleanShape_read_eq_ok {readClause : Reader (Occur × Query)} {form inner : Form}
    {a b : Scan} {found : Option (List (Occur × Query)) × Option UInt64}
    (henter : form.enter = .ok inner)
    (h : (Query.booleanShape readClause).read form
      (.object [(some "clauses", a), (some "minimum_should_match", b)] .closed) = .ok found) :
    ∃ x y, readList readClause inner a = .ok x ∧ readCount inner b = .ok y :=
  pairShape_read_eq_ok "struct variant QueryNode::Boolean" (by decide) henter h

theorem readList_eq_ok {α : Type} {read : Reader α} {form inner : Form} {items : List Scan}
    {values : List α} (henter : form.enter = .ok inner)
    (h : readList read form (.array items .closed) = .ok values) :
    items.mapM (read inner) = .ok values := by
  simp only [readList, henter, ok_bind] at h
  obtain ⟨found, hfound, h⟩ := bind_eq_ok_iff.mp h
  cases h
  exact hfound

theorem Term.each_true (t : Term) : t.Each fun _ => True := by
  cases t <;> simp [Term.Each]

mutual
/-- If what is written of a query is accepted at all, its boosts are finite. -/
theorem Query.boosts_isFinite : (q : Query) → {level : Nat} → {form : Form} → {result : Query} →
    form.Admits q.toJson.nesting →
    Query.readWithin level form (scanWith number q.toJson) = .ok result →
    q.Each (fun _ => True) (fun b => b.isFinite = true)
  | _, 0, _, _, _, h => nomatch h
  | .matchAll, _ + 1, _, _, _, _ => trivial
  | .text .., _ + 1, _, _, _, _ => trivial
  | .term _ t, _ + 1, _, _, _, _ => t.each_true
  | .range r, _ + 1, _, _, _, _ => ⟨r.lower.each_true, r.upper.each_true⟩
  | .boolean clauses minimum, level + 1, form, result, hform, h => by
      simp only [Query.toJson] at hform h
      obtain ⟨inner, henter, hinner⟩ := hform.enterMember
      obtain ⟨body, hbody, hitems, _⟩ := hinner.enterPair
      obtain ⟨list, hlist, hclauses⟩ := hitems.enter
      simp only [scanWith, membersWith] at h
      rw [Query.readWithin_boolean henter] at h
      obtain ⟨found, hfound, _⟩ := bind_eq_ok_iff.mp h
      obtain ⟨x, _, hx, _⟩ := booleanShape_read_eq_ok hbody hfound
      exact clauses_boosts_isFinite clauses hclauses (readList_eq_ok hlist hx)
  | .constantScore q boost, level + 1, form, result, hform, h => by
      simp only [Query.toJson] at hform h
      obtain ⟨inner, henter, hinner⟩ := hform.enterMember
      obtain ⟨last, hlast, hquery, _⟩ := hinner.enterPair
      simp only [scanWith, membersWith] at h
      rw [Query.readWithin_constantScore henter] at h
      obtain ⟨found, hfound, _⟩ := bind_eq_ok_iff.mp h
      obtain ⟨x, y, hx, hy⟩ := pairShape_read_eq_ok _ (by decide) hlast hfound
      exact ⟨q.boosts_isFinite hquery hx, readSingle_ofSingle_eq_ok hy⟩
  | .boosted q boost, level + 1, form, result, hform, h => by
      simp only [Query.toJson] at hform h
      obtain ⟨inner, henter, hinner⟩ := hform.enterMember
      obtain ⟨last, hlast, hquery, _⟩ := hinner.enterPair
      simp only [scanWith, membersWith] at h
      rw [Query.readWithin_boosted henter] at h
      obtain ⟨found, hfound, _⟩ := bind_eq_ok_iff.mp h
      obtain ⟨x, y, hx, hy⟩ := pairShape_read_eq_ok _ (by decide) hlast hfound
      exact ⟨q.boosts_isFinite hquery hx, readSingle_ofSingle_eq_ok hy⟩

theorem clauses_boosts_isFinite : (clauses : List (Occur × Query)) → {level : Nat} →
    {form : Form} → {result : List (Occur × Query)} →
    form.Admits (nestingOfItems (clausesToJson clauses)) →
    (itemsWith number (clausesToJson clauses)).mapM (readClause (Query.readWithin level) form) =
      .ok result →
    EachClause (fun _ => True) (fun b => b.isFinite = true) clauses
  | [], _, _, _, _, _ => trivial
  | (occur, q) :: rest, level, form, result, hform, h => by
      simp only [clausesToJson, nestingOfItems] at hform
      obtain ⟨inner, henter, hinner⟩ := (hform.mono (Nat.le_max_left _ _)).enterMember
      simp only [clausesToJson, itemsWith, scanWith, membersWith, List.mapM_cons] at h
      rw [readClause_member henter] at h
      obtain ⟨clause, hclause, h⟩ := bind_eq_ok_iff.mp h
      obtain ⟨others, hothers, _⟩ := bind_eq_ok_iff.mp h
      obtain ⟨query, hquery, _⟩ := bind_eq_ok_iff.mp hclause
      exact ⟨q.boosts_isFinite hinner hquery,
        clauses_boosts_isFinite rest (hform.mono (Nat.le_max_right _ _)) hothers⟩
end

end Refused

/-! ## The written text -/

section Reread

variable {source : String} {q : Query}

/-- The texts of a query: without blanks, or over several lines, as in an answer to a search. -/
inductive Query.WrittenAs (q : Query) : String → Prop where
  | compact : q.WrittenAs (Json.text q.toJson)
  | indented (level : Nat) : q.WrittenAs (String.ofList (Json.indented level q.toJson))

/-- An answer to a search shows the query as it is written one level in. -/
theorem answerJson_shows_query (hits : List Command.RankedHit) : ∃ rest,
    (Command.answerJson q hits).prettyText.toList = '\x7b' :: newLine 1 ++ stringText "query" ++
      [':', ' '] ++ Json.indented 1 q.toJson ++ ',' :: rest := by
  rw [Command.answerJson, prettyText, String.toList_ofList]
  exact ⟨_, rfl⟩

def Query.HasFiniteBoosts (q : Query) : Prop :=
  q.Each (fun _ => True) (fun b => b.isFinite = true)

/-- A text of a query is read from its scan, in which each number is as it is shown. -/
theorem Query.WrittenAs.readText_eq {written : String} (h : q.WrittenAs written)
    (hnumbers : q.Each RereadsDouble RereadsSingle) : readText Query.read written =
      Query.read (.text depthLimit) (scanWith shown q.toJson) := by
  have heach := q.eachNumber_toJson (fun n => (shown_natural n).symm ▸ reads_natural n)
    (hnumbers.imp (fun _ h => h.scan.1) fun _ h => h.scan.1)
  cases h with
  | compact => rw [Json.text, readText_of_reads (reads_compact q.toJson heach)]
  | indented level => rw [readText_of_reads (reads_indented level q.toJson heach)]

/-- Whatever text a query was read from, what is written of it is read as the same query if its
boosts are finite, and is refused otherwise. Finite numbers are taken to be read back from their
own texts. -/
theorem Query.readText_written (hread : readText Query.read source = .ok q)
    (hnumbers : q.Each RereadsDouble RereadsSingle) {written : String} (h : q.WrittenAs written) :
    (q.HasFiniteBoosts → readText Query.read written = .ok q) ∧
      (¬q.HasFiniteBoosts → ∃ e, readText Query.read written = .error e) := by
  obtain ⟨hvalue, _⟩ := readText_eq_ok hread
  obtain ⟨hfinite, hnesting⟩ := Query.readWithin_yields _ depthLimit (by decide) _ q
    (ofText_isFinite source) hvalue
  have hform : (Form.text depthLimit).Admits q.toJson.nesting := hnesting
  rw [h.readText_eq hnumbers, Query.read]
  constructor
  · intro hboosts
    have hboth := hfinite.both (fun _ hx _ => hx) (fun _ _ hb => hb) hboosts
    have hreads := hnumbers.both (fun _ hx => hx.scan.2) (fun _ hb => hb.scan.2) hboth
    have hcount (n : UInt64) : ReadsCount shown n := by
      intro form
      rw [shown_natural]
      rfl
    exact q.readWithin_scanWith hcount hreads _ _ (Nat.le_refl _) hform
  · intro hboosts
    cases hresult : Query.readWithin (scanWith shown q.toJson).height (.text depthLimit)
        (scanWith shown q.toJson) with
    | error e => exact ⟨e, rfl⟩
    | ok result => exact absurd (q.boosts_isFinite hform hresult) hboosts

/-- Arrays for bodies, members out of order, one that is unknown and a minimum left out. -/
def spelledOtherwise : String :=
  "\x7b\"boosted\":[\x7b\"boolean\":[[\x7b\"must\":\x7b\"term\":\x7b\"term\":\x7b\"number\":5e0\x7d," ++
    "\"why\":[null],\"field\":\"isbn\"\x7d\x7d\x7d]]\x7d,2]\x7d"

def otherwiseSpelled : Query := .boosted (.boolean [(.must, .term "isbn" (.number 5))] 0) 2

theorem Query.readText_written_otherwise :
    readText Query.read spelledOtherwise = .ok otherwiseSpelled ∧
      readText Query.read (Json.text otherwiseSpelled.toJson) = .ok otherwiseSpelled := by
  have hread : readText Query.read spelledOtherwise = .ok otherwiseSpelled :=
    toOption_eq_some_iff.mp (by decide +kernel)
  have hnumber : RereadsDouble 5 := fun _ => toOption_eq_some_iff.mp (by decide +kernel)
  have hboost : RereadsSingle 2 := fun _ => toOption_eq_some_iff.mp (by decide +kernel)
  exact ⟨hread, (Query.readText_written hread ⟨⟨hnumber, trivial⟩, hboost⟩ .compact).1
    ⟨⟨trivial, trivial⟩, by decide +kernel⟩⟩

/-- A boost of `1e39` is beyond 32 bits, and is read as infinity. What is written of it is refused,
though every finite number of the query is read back. -/
theorem Query.readText_written_infinite : ∃ q, readText Query.read
      "\x7b\"boosted\":\x7b\"query\":\"match_all\",\"boost\":1e39\x7d\x7d" = .ok q ∧
    q.Each RereadsDouble RereadsSingle ∧ readText Query.read (Json.text q.toJson) ≠ .ok q := by
  refine ⟨.boosted .matchAll (1 / 0), toOption_eq_some_iff.mp (by decide +kernel), ⟨trivial, ?_⟩, ?_⟩
  · intro hfinite
    exact absurd hfinite (by decide +kernel)
  · intro hread
    exact absurd (toOption_eq_some_iff.mpr hread) (by decide +kernel)

end Reread

end Catalogue
