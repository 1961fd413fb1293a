import Catalogue.Proofs.Query.Meaning

/-! # Separators in match text

Whatever stands around it, a character that belongs to no word ends the run before it and begins
none. So a text that is joined from two at such a character has the words of both, each with the
token that it has alone, and matches what either of the two matches. -/

namespace Catalogue

namespace Analysis

/-- The words of a text: what stands between its separators, where that is anything. -/
def wordsOf (text : String) : List (List Char) :=
  (text.toList.splitOnP fun c => !Text.isAlphanumeric c).filter fun word => !word.isEmpty

def tokensOf (stem : Stemmer) (words : List (List Char)) : List String :=
  (words.filterMap (token? stem)).map String.ofList

/-- Reading runs cuts at each character that belongs to none and leaves out what is empty. The
induction carries the run being read, which is what cutting puts before the next piece. -/
theorem runsFrom_eq_splitOnPPrepend (p : Char → Bool) (run cs : List Char) :
    runsFrom p run cs =
      (cs.splitOnPPrepend (fun c => !p c) run).filter fun piece => !piece.isEmpty := by
  induction cs generalizing run with
  | nil => cases run <;> simp [runsFrom, List.splitOnPPrepend]
  | cons c rest ih =>
      rw [runsFrom, List.splitOnPPrepend_cons_eq_if]
      by_cases hc : p c = true
      · simp [hc, ih]
      · cases run <;> simp [hc, ih]

theorem titleTokens_eq (stem : Stemmer) (text : String) :
    titleTokens stem text = tokensOf stem (wordsOf text) := by
  rw [titleTokens, runs, runsFrom_eq_splitOnPPrepend]
  rfl

/-- A separator stands between the words before it and those behind it. -/
theorem wordsOf_separated {c : Char} (hc : Text.isAlphanumeric c = false) (a b : String) :
    wordsOf (a.push c ++ b) = wordsOf a ++ wordsOf b := by
  have hlist : (a.push c ++ b).toList = a.toList ++ c :: b.toList := by simp
  rw [wordsOf, hlist, List.splitOnP_append_cons _ _ (by simp [hc]), List.filter_append]
  rfl

theorem tokensOf_append (stem : Stemmer) (words others : List (List Char)) :
    tokensOf stem (words ++ others) = tokensOf stem words ++ tokensOf stem others := by
  rw [tokensOf, List.filterMap_append, List.map_append]
  rfl

end Analysis

open Analysis

def Analyzer.english : Analyzer := ⟨some Stem.ofWord⟩

theorem Analyzer.english_analyze (text : String) :
    english.analyze "title" text = .ok (tokensOf Stem.ofWord (wordsOf text)) :=
  congrArg Except.ok (titleTokens_eq Stem.ofWord text)

/-- The parts of a plan that asks for any of some tokens of titles. -/
def Plan.titleParts (tokens : List String) : List (Occur × Plan) :=
  tokens.map fun token => (.should, .term .title token)

theorem Plan.ofQuery_title (text : String) :
    Plan.ofQuery .english (.text "title" text) =
      .ok (.boolean (titleParts (tokensOf Stem.ofWord (wordsOf text)))) := by
  have htitle : Field.resolve "title" = .ok .title := rfl
  rw [Plan.ofQuery, Plan.ofText, htitle, Analyzer.english_analyze]
  rfl

theorem Query.holds_separated {c : Char} (hc : Text.isAlphanumeric c = false) (a b : String)
    (d : Document) :
    (Query.text "title" (a.push c ++ b)).holds .english d =
      ((Query.text "title" a).holds .english d || (Query.text "title" b).holds .english d) := by
  have htitle : Field.ofName? "title" = some .title := rfl
  simp only [Query.holds, htitle, Analyzer.english_analyze, wordsOf_separated hc, tokensOf_append,
    List.any_append]

/-- Walking the cursor of a plan meets the documents that match it. -/
theorem Plan.mem_visited_iff {s : Segment} (hs : s.length ≤ noMoreDocs) (plan : Plan)
    (boost : Float32) (doc : Nat) :
    doc ∈ (plan.cursor s boost).visited ↔ ∃ d, s[doc]? = some d ∧ plan.holds d = true := by
  have hfinds := plan.cursor_finds hs boost
  rw [(hfinds.ordered hs).visited_eq, hfinds.exact]

/-- A text is analyzed as two others one after the other, its plan asks for what theirs ask for, and
it matches what either of them matches. -/
structure JoinedFrom (joined first second : String) : Prop where
  tokens : ∃ left right, Analyzer.english.analyze "title" first = .ok left ∧
    Analyzer.english.analyze "title" second = .ok right ∧
    Analyzer.english.analyze "title" joined = .ok (left ++ right) ∧
    left = tokensOf Stem.ofWord (wordsOf first) ∧ right = tokensOf Stem.ofWord (wordsOf second)
  plans : ∃ left right, Plan.ofQuery .english (.text "title" first) = .ok (.boolean left) ∧
    Plan.ofQuery .english (.text "title" second) = .ok (.boolean right) ∧
    Plan.ofQuery .english (.text "title" joined) = .ok (.boolean (left ++ right)) ∧
    ∀ s : Segment, s.length ≤ noMoreDocs → ∀ boost doc,
      doc ∈ ((Plan.boolean (left ++ right)).cursor s boost).visited ↔
        doc ∈ ((Plan.boolean left).cursor s boost).visited ∨
          doc ∈ ((Plan.boolean right).cursor s boost).visited

/-- Match text splits at separators: a text that is joined from two at a character that belongs to
no word has the tokens of both and matches what either of them matches. -/
theorem joined_at_separator {c : Char} (hc : Text.isAlphanumeric c = false) (a b : String) :
    JoinedFrom (a.push c ++ b) a b := by
  have htokens : tokensOf Stem.ofWord (wordsOf (a.push c ++ b)) =
      tokensOf Stem.ofWord (wordsOf a) ++ tokensOf Stem.ofWord (wordsOf b) := by
    rw [wordsOf_separated hc, tokensOf_append]
  have hjoined : Plan.ofQuery .english (.text "title" (a.push c ++ b)) =
      .ok (.boolean (Plan.titleParts (tokensOf Stem.ofWord (wordsOf a)) ++
        Plan.titleParts (tokensOf Stem.ofWord (wordsOf b)))) := by
    rw [Plan.ofQuery_title, htokens, Plan.titleParts, List.map_append]
    rfl
  refine ⟨⟨_, _, Analyzer.english_analyze a, Analyzer.english_analyze b, ?_, rfl, rfl⟩,
    ⟨_, _, Plan.ofQuery_title a, Plan.ofQuery_title b, hjoined, fun s hs boost doc => ?_⟩⟩
  · rw [Analyzer.english_analyze, htokens]
  · simp only [Plan.mem_visited_iff hs, holds_ofQuery _ _ hjoined,
      holds_ofQuery _ _ (Plan.ofQuery_title _), Query.holds_separated hc, Bool.or_eq_true,
      and_or_left, exists_or]

/-- A text whose last word is one byte too long. -/
def endsInLongWord : String := "Managing " ++ String.ofList (List.replicate longWord 'x')

/-- The long word in front of the separator is dropped, and takes nothing behind it along. -/
theorem joined_behind_longWord :
    Text.isAlphanumeric '-' = false ∧
      JoinedFrom (endsInLongWord.push '-' ++ "managed") endsInLongWord "managed" ∧
      Analyzer.english.analyze "title" (endsInLongWord.push '-' ++ "managed") =
        .ok ["manag", "manag"] :=
  ⟨by decide, joined_at_separator (by decide) endsInLongWord "managed", by decide +kernel⟩

end Catalogue
