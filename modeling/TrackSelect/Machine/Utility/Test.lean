import TrackSelect.Machine.System.Process
import TrackSelect.Text.Bytes
import TrackSelect.Text.Numeral
import TrackSelect.Machine.Utility.Escape

/-!
# Tests of texts, numbers and files

The arguments of a test are words: texts, and operators in front of or between them.
`Test.holds` says whether a test holds, or why it is none.
-/

namespace TrackSelect.Utility.Test

open TrackSelect.System

/-- What a word is in a test. -/
inductive Operator where
  | unary (name : String)
  | binary (name : String)
  | negation
  | both
  | either
  | opening
  | closing
deriving DecidableEq, Repr

def operator? (word : String) : Option Operator :=
  if ["-r", "-w", "-x", "-e", "-f", "-d", "-c", "-b", "-p", "-u", "-g", "-k", "-s", "-t", "-z",
      "-n", "-h", "-O", "-G", "-L", "-S"].contains word then some (.unary word)
  else if ["=", "!=", "<", ">", "-eq", "-ne", "-ge", "-gt", "-le", "-lt", "-nt", "-ot",
      "-ef", "=="].contains word then some (.binary word)
  else match word with
    | "!" => some .negation
    | "-a" => some .both
    | "-o" => some .either
    | "(" => some .opening
    | ")" => some .closing
    | _ => none

/-- A test under way: the words from the present one on. A failure is a message. -/
abbrev Testing := ExceptT String (StateT (List String) Program)

def words : Testing (List String) := get

/-- Leave some words behind. -/
def advance (n : Nat) : Testing Unit := modify fun words => words.drop n

/-- Whether a word that could be an operator on the next one is an operand itself. -/
def isOperand : List String → Bool
  | _ :: second :: _ :: _ =>
    match operator? second with
    | some (.binary _) => true
    | _ => false
  | _ :: _ :: [] => false
  | _ => true

/-- The operator that some words start with. -/
def operatorAt (manner : Manner) (words : List String) : Option Operator :=
  match words with
  | [] => none
  | word :: rest =>
    match operator? word with
    | some (.unary name) => if isOperand words then none else some (.unary name)
    | some .opening => if rest.isEmpty then none else some .opening
    | some (.binary "==") => if manner = .plainShell then none else some (.binary "==")
    | found => found

/-- Whether a word is an operator between two operands. -/
def isBinary (manner : Manner) (word : String) : Bool :=
  match operator? word with
  | some (.binary name) => name ≠ "==" || manner ≠ .plainShell
  | _ => false

/-- The number that a word stands for. -/
def number (manner : Manner) (word : String) : Testing Int := do
  let isBlank (c : Char) : Bool := c = ' ' || c = '\t' || c = '\n'
  let cs := word.toList.dropWhile isBlank
  let cs := (cs.reverse.dropWhile isBlank).reverse
  let n := match cs with
    | '-' :: ds => (Text.natural? ds).map fun n => -(n : Int)
    | '+' :: ds => (Text.natural? ds).map Int.ofNat
    | ds => (Text.natural? ds).map Int.ofNat
  match n with
  | some n =>
    if n < -(twoTo 63 : Int) || (twoTo 63 : Int) ≤ n then throw ("Illegal number: " ++ word)
    return n
  | none =>
    match manner with
    | .plainShell => throw ("Illegal number: " ++ word)
    | .extendedShell => throw (word ++ ": integer expression expected")
    | .program => throw ("invalid integer '" ++ word ++ "'")

/-- Ask the system. -/
def request (request : Request) : Testing request.Answer :=
  ExceptT.lift (StateT.lift (Program.ask request))

/-- Whether something is true of a file. -/
def ofFile (name path : String) : Testing Bool := do
  match ← request (.inspect path) with
  | .error _ => return false
  | .ok facts =>
    return match name with
      | "-e" | "-r" | "-w" | "-O" | "-G" => true
      | "-x" => facts.executable
      | "-f" => facts.kind = .file
      | "-d" => facts.kind = .folder
      | "-s" => 0 < facts.size
      | "-c" => facts.kind = .device
      | "-p" => facts.kind = .pipe
      | _ => false

/-- What an operator says of two words. -/
def compare (manner : Manner) (name first second : String) : Testing Bool := do
  let numbers (holds : Int → Int → Bool) : Testing Bool := do
    return holds (← number manner first) (← number manner second)
  match name with
  | "=" | "==" => return first = second
  | "!=" => return first ≠ second
  | "<" => return first < second
  | ">" => return second < first
  | "-eq" => numbers fun a b => a == b
  | "-ne" => numbers fun a b => a != b
  | "-lt" => numbers fun a b => a < b
  | "-le" => numbers fun a b => a ≤ b
  | "-gt" => numbers fun a b => b < a
  | "-ge" => numbers fun a b => b ≤ a
  | "-ef" =>
    match ← request (.inspect first), ← request (.inspect second) with
    | .ok a, .ok b => return a.identity = b.identity
    | _, _ => return false
  | _ => return false

/-- Fail because an operand is missing behind an operator. -/
def lacksOperand {α : Type} (manner : Manner) (operator : String) : Testing α :=
  match manner with
  | .plainShell => throw (operator ++ ": argument expected")
  | .extendedShell => throw (operator ++ ": unary operator expected")
  | .program => throw ("missing argument after '" ++ operator ++ "'")

/-- How much of a test is read. -/
inductive Level where
  | either
  | both
  | negation
  | single
deriving DecidableEq

/-- A part of a test, whose last word stays the present one; `fuel` bounds how many parts there
are. -/
def part (manner : Manner) : (fuel : Nat) → Level → Testing Bool
  | 0, _ => throw "too many arguments"
  | fuel + 1, .either => do
    let first ← part manner fuel .both
    match operatorAt manner ((← words).drop 1) with
    | some .either =>
      advance 2
      let second ← part manner fuel .either
      return first || second
    | _ => return first
  | fuel + 1, .both => do
    let first ← part manner fuel .negation
    match operatorAt manner ((← words).drop 1) with
    | some .both =>
      advance 2
      let second ← part manner fuel .both
      return first && second
    | _ => return first
  | fuel + 1, .negation => do
    match operatorAt manner (← words) with
    | some .negation =>
      if (← words).length > 1 then
        advance 1
        return !(← part manner fuel .negation)
      else return true
    | _ => part manner fuel .single
  | fuel + 1, .single => do
    match operatorAt manner (← words) with
    | some .opening =>
      advance 1
      match operatorAt manner (← words) with
      | some .closing => return false
      | _ =>
        let inner ← part manner fuel .either
        advance 1
        match operatorAt manner (← words) with
        | some .closing => return inner
        | _ =>
          match manner with
          | .plainShell => throw "closing paren expected"
          | .extendedShell => throw "\x60)' expected"
          | .program => throw "')' expected"
    | some (.unary name) =>
      advance 1
      match ← words with
      | [] => lacksOperand manner name
      | operand :: _ =>
        match name with
        | "-z" => return operand = ""
        | "-n" => return operand ≠ ""
        | "-t" => return (← number manner operand) < 0
        | name => ofFile name operand
    | _ =>
      match ← words with
      | [] => return false
      | first :: operator :: rest =>
        if isBinary manner operator then
          match rest with
          | [] => lacksOperand manner operator
          | second :: _ =>
            advance 2
            compare manner operator first second
        else return first ≠ ""
      | [first] => return first ≠ ""

/-- Whether a test of some words holds. -/
def evaluate (manner : Manner) (fuel : Nat) : (negated : Nat) → Testing Bool
  | 0 => throw "too many arguments"
  | again + 1 => do
    let all ← words
    let whole : Testing Bool := do
      let holds ← part manner fuel .either
      match ← words with
      | word :: _ :: _ =>
        match manner with
        | .plainShell => throw (word ++ ": unexpected operator")
        | .extendedShell =>
          if all.length = 2 then throw (word ++ ": unary operator expected")
          else if all.length = 3 then throw ((all[1]?).getD "" ++ ": binary operator expected")
          else throw "too many arguments"
        | .program => throw ("extra argument '" ++ word ++ "'")
      | _ => return holds
    match all with
    | [] => return false
    | [first, operator, second] =>
      if isBinary manner operator then compare manner operator first second
      else if first = "(" && second = ")" then
        set [operator]
        whole
      else if first = "!" then
        set [operator, second]
        return !(← evaluate manner fuel again)
      else whole
    | [first, second, third, fourth] =>
      if first = "(" && fourth = ")" then
        set [second, third]
        whole
      else if first = "!" then
        set [second, third, fourth]
        return !(← evaluate manner fuel again)
      else whole
    | _ => whole

/-- Whether a test called by some name holds, or why it is none. -/
def holds (manner : Manner) (name : String) (arguments : List String) :
    Program (Except String Bool) := do
  let judge (arguments : List String) : Program (Except String Bool) := do
    let (result, _) ← (evaluate manner (4 * arguments.length + 8) 3).run arguments
    pure result
  if name = "[" then
    if arguments.getLast? = some "]" then judge arguments.dropLast
    else pure (.error (match manner with
      | .plainShell => "missing ]"
      | .extendedShell => "missing \x60]'"
      | .program => "missing ']'"))
  else judge arguments

end TrackSelect.Utility.Test
