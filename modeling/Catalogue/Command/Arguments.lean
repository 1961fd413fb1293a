/-!
# Command lines

A command line names one of the commands `init`, `check`, `add` and `search`, with switches,
options and operands of its own. Words are read from left to right, and the first problem counts.
An operand or a value that stands alone is checked only when the next one is read.
-/

namespace Catalogue.Command

/-- What a command line asks for. -/
inductive Request where
  | init (force : Bool)
  | check
  | add (file : String)
  | search (query : String) (limit : Option Nat) (json explain : Bool)
  deriving DecidableEq, Repr

/-- Why a command line is not carried out. Two of these ask for help. -/
inductive UsageError where
  | helpWanted
  | nothingAsked
  | missingCommand
  | unknownCommand
  | unknownArgument
  | missingOperand
  | missingValue
  | invalidValue
  | unwantedValue
  | repeated
  deriving DecidableEq, Repr

/-- What is wrong with a command line. -/
def UsageError.message : UsageError → String
  | helpWanted => "help was asked for"
  | nothingAsked | missingCommand => "a command is missing"
  | unknownCommand => "there is no such command"
  | unknownArgument => "an argument was not expected"
  | missingOperand => "an argument is missing"
  | missingValue => "a value is missing"
  | invalidValue => "the limit is no count"
  | unwantedValue => "a switch takes no value"
  | repeated => "an option was given twice"

/-- How a command line is written. -/
def usage : String :=
  "usage: quarry [-v] init [--force]\n" ++
    "       quarry [-v] check\n" ++
    "       quarry [-v] add FILE\n" ++
    "       quarry [-v] search QUERY [-n LIMIT] [--json] [--explain]"

/-- A command line that can be carried out, and how much it wants to be told about it. -/
structure Invocation where
  verbosity : Nat
  request : Request
  deriving DecidableEq, Repr

/-! ## Grammar -/

/-- The commands. -/
inductive Name where
  | init
  | check
  | add
  | search
  deriving DecidableEq, Repr

/-- The command of a name. -/
def Name.ofText? : String → Option Name
  | "init" => some init
  | "check" => some check
  | "add" => some add
  | "search" => some search
  | _ => none

/-- The words that a command line may contain where a command is known, or where none is yet. -/
structure Grammar where
  switches : List String
  hasLimit : Bool
  hasOperand : Bool
  deriving DecidableEq, Repr

/-- Before a command. -/
def Grammar.top : Grammar := ⟨[], false, false⟩

/-- After a command. -/
def Grammar.of : Name → Grammar
  | .init => ⟨["force"], false, false⟩
  | .check => ⟨[], false, false⟩
  | .add => ⟨[], false, true⟩
  | .search => ⟨["json", "explain"], true, true⟩

/-! ## Reading words -/

/-- A word that was read but not checked yet: an operand, or the value of the limit, which may not
have come yet. -/
inductive Waiting where
  | operand (word : String)
  | limit (value : Option String)
  deriving DecidableEq, Repr

/-- What the words read so far say. -/
structure Draft where
  verbosity : Option Nat
  switches : List String
  limit : Option Nat
  operand : Option String
  hasOperand : Bool
  waiting : Option Waiting
  deriving DecidableEq, Repr

/-- Before any word. -/
def Draft.empty : Draft := ⟨none, [], none, none, false, none⟩

/-- A count of 64 bits in decimal digits. A plus may stand before it. -/
def count? (word : String) : Option Nat :=
  let cs := match word.toList with
    | '+' :: rest => rest
    | cs => cs
  if cs = [] || !cs.all Char.isDigit then none
  else
    let n := cs.foldl (fun n c => 10 * n + (c.toNat - '0'.toNat)) 0
    if n < UInt64.size then some n else none

namespace Draft

/-- Sets the limit, which must not be set yet. -/
def setLimit (d : Draft) (value : String) : Except UsageError Draft :=
  if d.limit.isSome then .error .repeated
  else
    match count? value with
    | some n => .ok { d with limit := some n }
    | none => .error .invalidValue

/-- Checks the word that waits for it. -/
def settle (d : Draft) : Except UsageError Draft :=
  let checked := { d with waiting := none }
  match d.waiting with
  | none => .ok checked
  | some (.operand word) =>
    if word = "" then .error .missingValue else .ok { checked with operand := some word }
  | some (.limit none) => .error .missingValue
  | some (.limit (some value)) => checked.setLimit value

/-- Turns a switch on, which must not be on yet. -/
def switch (d : Draft) (name : String) : Except UsageError Draft := do
  let d ← d.settle
  if d.switches.contains name then .error .repeated
  else return { d with switches := name :: d.switches }

/-- Wants to be told more. -/
def louder (d : Draft) : Except UsageError Draft := do
  let d ← d.settle
  return { d with verbosity := some (d.verbosity.getD 0 + 1) }

/-- Asks for help, unless a word before it is wrong. -/
def help (d : Draft) : Except UsageError Draft := do
  let _ ← d.settle
  .error .helpWanted

/-- Begins the limit, whose value may come with it. -/
def beginLimit (d : Draft) (value : Option String) : Except UsageError Draft := do
  let d ← d.settle
  match value with
  | some value => d.setLimit value
  | none => return { d with waiting := some (.limit none) }

/-- Reads a word of two dashes and a name, which a value may follow. -/
def long (d : Draft) (g : Grammar) (name : String) (value : Option String) :
    Except UsageError Draft :=
  if g.hasLimit && name = "limit" then d.beginLimit value
  else if name = "verbose" || name = "help" || g.switches.contains name then
    if value.isSome then .error .unwantedValue
    else if name = "verbose" then d.louder
    else if name = "help" then d.help
    else d.switch name
  else .error .unknownArgument

/-- Reads the letters after one dash. A letter that wants a value takes the rest of the word. -/
def short (d : Draft) (g : Grammar) : List Char → Except UsageError Draft
  | [] => .ok d
  | c :: rest => do
    if c = 'v' then
      let d ← d.louder
      d.short g rest
    else if c = 'h' then d.help
    else if c = 'n' && g.hasLimit then
      match rest with
      | [] => d.beginLimit none
      | '=' :: value => d.beginLimit (some (String.ofList value))
      | value => d.beginLimit (some (String.ofList value))
    else .error .unknownArgument

/-- Reads an operand. -/
def addOperand (d : Draft) (g : Grammar) (word : String) : Except UsageError Draft := do
  if g.hasOperand && !d.hasOperand then
    let d ← d.settle
    return { d with hasOperand := true, waiting := some (.operand word) }
  else .error .unknownArgument

/-- Whether the next word is the value of the limit, if it does not begin with a dash. -/
def wantsValue (d : Draft) : Bool := d.waiting = some (.limit none)

/-- Reads a word that is no option: the value of the limit, or an operand. -/
def plain (d : Draft) (g : Grammar) (word : String) : Except UsageError Draft :=
  if d.wantsValue then .ok { d with waiting := some (.limit (some word)) }
  else d.addOperand g word

/-- Reads a word that begins with a dash as an option, and any other as it stands. -/
def word (d : Draft) (g : Grammar) (w : String) : Except UsageError Draft :=
  match w.toList with
  | '-' :: '-' :: rest =>
    let name := rest.takeWhile (· ≠ '=')
    let value := match rest.dropWhile (· ≠ '=') with
      | [] => none
      | _ :: value => some (String.ofList value)
    d.long g (String.ofList name) value
  | '-' :: c :: rest => d.short g (c :: rest)
  | _ => d.plain g w

/-- Reads words after a command. After two dashes every word is an operand. -/
def words (d : Draft) (g : Grammar) (onlyOperands : Bool) : List String → Except UsageError Draft
  | [] => d.settle
  | w :: rest => do
    if onlyOperands then
      let d ← d.addOperand g w
      d.words g true rest
    else if w = "--" then d.words g true rest
    else
      let d ← d.word g w
      d.words g false rest

end Draft

/-! ## Whole command lines -/

/-- The request of a command, given what its words say. -/
def Name.request (d : Draft) : Name → Except UsageError Request
  | .init => .ok (.init (d.switches.contains "force"))
  | .check => .ok .check
  | .add =>
    match d.operand with
    | some file => .ok (.add file)
    | none => .error .missingOperand
  | .search =>
    match d.operand with
    | some query =>
      .ok (.search query d.limit (d.switches.contains "json") (d.switches.contains "explain"))
    | none => .error .missingOperand

/-- Reads the words after `help`, which name a command. -/
def readHelp (words : List String) : Except UsageError Invocation :=
  match words with
  | [] => .error .helpWanted
  | [w] => if w = "help" || (Name.ofText? w).isSome then .error .helpWanted
    else .error .unknownCommand
  | _ => .error .unknownCommand

/-- Reads words before a command. After two dashes no command can follow. -/
def readTop (d : Draft) (onlyOperands : Bool) : List String → Except UsageError Invocation
  | [] => do
    let d ← d.settle
    .error (if d.verbosity.isNone then .nothingAsked else .missingCommand)
  | w :: rest => do
    if onlyOperands then
      .error (if w = "help" || (Name.ofText? w).isSome then .unknownArgument else .unknownCommand)
    else if w = "help" then readHelp rest
    else
      match Name.ofText? w with
      | some name =>
        let words ← Draft.empty.words (.of name) false rest
        return ⟨(words.verbosity <|> d.verbosity).getD 0, ← name.request words⟩
      | none =>
        if w = "--" then readTop d true rest
        else if w.toList.head? = some '-' && w ≠ "-" then
          let d ← d.word .top w
          readTop d false rest
        else .error .unknownCommand

/-- Reads a command line. -/
def Invocation.ofWords (words : List String) : Except UsageError Invocation :=
  readTop .empty false words

end Catalogue.Command
