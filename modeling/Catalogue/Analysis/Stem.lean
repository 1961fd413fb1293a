/-!
# English stems

The stem of an English word, by the suffix rules of the second Porter algorithm. Words are in
lower case and hold no apostrophe. While the rules run, a `y` that acts as a consonant is written
`Y`.
-/

namespace Catalogue.Analysis.Stem

/-! ## Letters -/

/-- The vowels. A `y` is one unless it acts as a consonant. -/
def isVowel (c : Char) : Bool :=
  c = 'a' || c = 'e' || c = 'i' || c = 'o' || c = 'u' || c = 'y'

/-- The letters that do not close a short syllable. -/
def isOpen (c : Char) : Bool := isVowel c || c = 'w' || c = 'x' || c = 'Y'

/-- Marks each `y` that follows a vowel as a consonant. -/
def markConsonants (previous : Char) : List Char → List Char
  | [] => []
  | c :: rest =>
    let c := if c = 'y' && isVowel previous then 'Y' else c
    c :: markConsonants c rest

/-- Marks each `y` that acts as a consonant: one that starts the word or follows a vowel. -/
def mark : List Char → List Char
  | [] => []
  | c :: rest =>
    let c := if c = 'y' then 'Y' else c
    c :: markConsonants c rest

/-- Takes the marks away. -/
def unmark (w : List Char) : List Char := w.map fun c => if c = 'Y' then 'y' else c

/-! ## Regions -/

/-- How many letters reach past the first consonant after a vowel. -/
def pastSyllable? (w : List Char) : Option Nat :=
  let onset := w.takeWhile (!isVowel ·)
  let nucleus := (w.drop onset.length).takeWhile isVowel
  let n := onset.length + nucleus.length
  if nucleus.isEmpty || w.length ≤ n then none else some (n + 1)

/-- Beginnings after which the first region starts at once. -/
def wholeOnsets : List (List Char) := ["gener".toList, "commun".toList, "arsen".toList]

/-- A word with its two regions: suffixes are removed only where they start at or after
`first`, some only at or after `second`. -/
structure Word where
  letters : List Char
  first : Nat
  second : Nat

/-- Finds the regions of a marked word. -/
def Word.ofLetters (w : List Char) : Word :=
  let start := match wholeOnsets.find? (·.isPrefixOf w) with
    | some onset => some onset.length
    | none => pastSyllable? w
  match start with
  | none => ⟨w, w.length, w.length⟩
  | some first =>
    match pastSyllable? (w.drop first) with
    | none => ⟨w, first, w.length⟩
    | some n => ⟨w, first, first + n⟩

/-- Whether the letters end in a short syllable. -/
def endsShort (w : List Char) : Bool :=
  match w.reverse with
  | [c, v] => !isVowel c && isVowel v
  | c :: v :: d :: _ => !isOpen c && isVowel v && !isVowel d
  | _ => false

/-! ## Suffixes -/

/-- What is before a suffix, if the letters end in it. -/
def before? (suffix : String) (w : List Char) : Option (List Char) :=
  let s := suffix.toList
  if s.isSuffixOf w then some (w.take (w.length - s.length)) else none

/-- The longest suffix of a table that the letters end in: what is before it, and its entry. -/
def longest? {α : Type} (table : List (String × α)) (w : List Char) :
    Option (List Char × α) :=
  let hits := table.filterMap fun (suffix, entry) =>
    (before? suffix w).map fun stem => (stem, entry)
  hits.foldl (fun best hit =>
    match best with
    | none => some hit
    | some b => if hit.1.length < b.1.length then some hit else best) none

/-! ## The steps -/

/-- Plurals. -/
def plural (w : Word) : Word :=
  match longest? [("sses", 0), ("ied", 1), ("ies", 1), ("s", 2), ("us", 3), ("ss", 3)] w.letters with
  | some (stem, 0) => { w with letters := stem ++ ['s', 's'] }
  | some (stem, 1) => { w with letters := stem ++ if 2 ≤ stem.length then ['i'] else ['i', 'e'] }
  | some (stem, 2) => if stem.dropLast.any isVowel then { w with letters := stem } else w
  | _ => w

/-- Mends a stem that lost `-ed` or `-ing`. -/
def mend (w : Word) (stem : List Char) : List Char :=
  match stem.reverse with
  | 't' :: 'a' :: _ | 'l' :: 'b' :: _ | 'z' :: 'i' :: _ => stem ++ ['e']
  | c :: d :: _ =>
    if c = d && "bdfgmnprt".toList.contains c then stem.dropLast
    else if stem.length = w.first && endsShort stem then stem ++ ['e'] else stem
  | _ => if stem.length = w.first && endsShort stem then stem ++ ['e'] else stem

/-- Participles and their adverbs. -/
def participle (w : Word) : Word :=
  match longest? [("eed", true), ("eedly", true), ("ed", false), ("edly", false), ("ing", false),
      ("ingly", false)] w.letters with
  | some (stem, true) => if w.first ≤ stem.length then { w with letters := stem ++ ['e', 'e'] } else w
  | some (stem, false) => if stem.any isVowel then { w with letters := mend w stem } else w
  | none => w

/-- A final `y` after a consonant, not the second letter, becomes `i`. -/
def finalY (w : Word) : Word :=
  match w.letters.reverse with
  | y :: c :: d :: rest =>
    if (y = 'y' || y = 'Y') && !isVowel c then { w with letters := ('i' :: c :: d :: rest).reverse }
    else w
  | _ => w

/-- What becomes of a suffix: it is replaced, perhaps only after certain letters or in the second
region. -/
structure Rule where
  replacement : String
  after : Option String
  second : Bool

/-- Replaces a suffix in the first region. -/
def replace (s : String) : Rule := ⟨s, none, false⟩

/-- The letters before an `-li` that is removed. -/
def validBeforeLi : String := "cdeghkmnrt"

/-- Suffixes of suffixes. -/
def doubleTable : List (String × Rule) :=
  [("tional", replace "tion"), ("enci", replace "ence"), ("anci", replace "ance"),
    ("abli", replace "able"), ("entli", replace "ent"), ("izer", replace "ize"),
    ("ization", replace "ize"), ("ational", replace "ate"), ("ation", replace "ate"),
    ("ator", replace "ate"), ("alism", replace "al"), ("aliti", replace "al"),
    ("alli", replace "al"), ("fulness", replace "ful"), ("ousli", replace "ous"),
    ("ousness", replace "ous"), ("iveness", replace "ive"), ("iviti", replace "ive"),
    ("biliti", replace "ble"), ("bli", replace "ble"), ("ogi", ⟨"og", some "l", false⟩),
    ("fulli", replace "ful"), ("lessli", replace "less"), ("li", ⟨"", some validBeforeLi, false⟩)]

/-- Suffixes that are shortened or removed. -/
def middleTable : List (String × Rule) :=
  [("tional", replace "tion"), ("ational", replace "ate"), ("alize", replace "al"),
    ("icate", replace "ic"), ("iciti", replace "ic"), ("ical", replace "ic"), ("ful", replace ""),
    ("ness", replace ""), ("ative", ⟨"", none, true⟩)]

/-- Suffixes that are removed in the second region. -/
def lastTable : List (String × Rule) :=
  ["al", "ance", "ence", "er", "ic", "able", "ible", "ant", "ement", "ment", "ent", "ism", "ate",
    "iti", "ous", "ive", "ize"].map (fun s => (s, ⟨"", none, true⟩)) ++
  [("ion", ⟨"", some "st", true⟩)]

/-- Applies the rule of the longest suffix, if its conditions hold. -/
def applyTable (table : List (String × Rule)) (w : Word) : Word :=
  match longest? table w.letters with
  | none => w
  | some (stem, rule) =>
    let region := if rule.second then w.second else w.first
    let fits := match rule.after with
      | none => true
      | some letters => stem.getLast?.any letters.toList.contains
    if region ≤ stem.length && fits then { w with letters := stem ++ rule.replacement.toList } else w

/-- A final `e`, and the second of two final `l`. -/
def finalLetter (w : Word) : Word :=
  let stem := w.letters.dropLast
  match w.letters.getLast? with
  | some 'e' =>
    if w.second ≤ stem.length || (w.first ≤ stem.length && !endsShort stem) then
      { w with letters := stem }
    else w
  | some 'l' =>
    if w.second ≤ stem.length && stem.getLast? = some 'l' then { w with letters := stem } else w
  | _ => w

/-! ## Words -/

/-- Words with a stem of their own. -/
def irregular : List (String × String) :=
  [("skis", "ski"), ("skies", "sky"), ("dying", "die"), ("lying", "lie"), ("tying", "tie"),
    ("idly", "idl"), ("gently", "gentl"), ("ugly", "ugli"), ("early", "earli"), ("only", "onli"),
    ("singly", "singl"), ("sky", "sky"), ("news", "news"), ("howe", "howe"), ("atlas", "atlas"),
    ("cosmos", "cosmos"), ("bias", "bias"), ("andes", "andes")]

/-- Words that are stems once their plural is gone. -/
def invariant : List (List Char) :=
  ["inning", "outing", "canning", "herring", "earring", "proceed", "exceed", "succeed"].map
    String.toList

/-- The stem of a word. Words of one or two letters are their own. -/
def ofWord (w : List Char) : List Char :=
  match irregular.lookup (String.ofList w) with
  | some stem => stem.toList
  | none =>
    if w.length < 3 then w
    else
      let w := plural (Word.ofLetters (mark w))
      if invariant.contains w.letters then unmark w.letters
      else
        let w := finalY (participle w)
        let w := applyTable lastTable (applyTable middleTable (applyTable doubleTable w))
        unmark (finalLetter w).letters

end Catalogue.Analysis.Stem
