import Catalogue.Analysis.Stem
import Catalogue.Text.Lowercase

/-!
# Languages of titles

A language has a name in settings, and a stemmer. Only that of English is written out.
-/

namespace Catalogue.Analysis

/-- A language that titles can be stemmed in. -/
inductive Language where
  | arabic | danish | dutch | english | finnish | french | german | greek | hungarian | italian
  | norwegian | portuguese | romanian | russian | spanish | swedish | tamil | turkish
  deriving DecidableEq, Repr

namespace Language

/-- All languages. -/
def all : List Language :=
  [arabic, danish, dutch, english, finnish, french, german, greek, hungarian, italian, norwegian,
    portuguese, romanian, russian, spanish, swedish, tamil, turkish]

/-- The name of a language in settings. -/
def name : Language → String
  | arabic => "arabic"
  | danish => "danish"
  | dutch => "dutch"
  | english => "english"
  | finnish => "finnish"
  | french => "french"
  | german => "german"
  | greek => "greek"
  | hungarian => "hungarian"
  | italian => "italian"
  | norwegian => "norwegian"
  | portuguese => "portuguese"
  | romanian => "romanian"
  | russian => "russian"
  | spanish => "spanish"
  | swedish => "swedish"
  | tamil => "tamil"
  | turkish => "turkish"

/-- Finds a language by its name in any case; a name without one is returned in lower case. -/
def ofName (s : String) : Except String Language :=
  let lowered := Text.lowercase s
  match all.find? fun l => l.name = lowered with
  | some l => .ok l
  | none => .error lowered

end Language

/-! ## Stemmers -/

/-- Reduces a word in lower case to its stem. -/
abbrev Stemmer := List Char → List Char

/-- A library of stemmers, which may stem the words of a language in any way. -/
structure Stemmers where
  ofOther : Language → Stemmer

/-- The stemmer of a language: for English the rules of this development, for any other language
those of a library. -/
def Stemmers.of (library : Stemmers) : Language → Stemmer
  | .english => Stem.ofWord
  | other => library.ofOther other

end Catalogue.Analysis
