import TrackSelect.Powers
import TrackSelect.Machine.Shell.State

/-!
# Arithmetic of the shell

Expressions over whole numbers of 64 bits with a sign, written with the usual operators.
`Expression.read` reads one from its text; `evaluate` gives its value, sets the variables that it
assigns to, and fails where there is none.
-/

namespace TrackSelect.Shell.Arithmetic

/-- A number within 64 bits with a sign. -/
def wrap (n : Int) : Int := n.bmod (twoTo 64)

def ofBool (b : Bool) : Int := if b then 1 else 0

/-- A number that is as close to another as 64 bits with a sign allow. -/
def clamp (n : Int) : Int := max (-(twoTo 63 : Int)) (min n ((twoTo 63 : Int) - 1))

/-- An expression. The text of a divisor, up to the end, is kept for messages. -/
inductive Expression where
  | number (n : Int)
  | held (name : String) (index : Option Expression)
  | unary (operator : String) (operand : Expression)
  | binary (operator : String) (first second : Expression) (rest : String)
  | choice (test yes no : Expression)
  /-- Set a variable to a value, or to what an operator makes of its old value and the other. -/
  | assign (name : String) (index : Option Expression) (operator : String) (value : Expression)
  /-- Change a variable by one; the value is the old or the new one. -/
  | step (name : String) (index : Option Expression) (amount : Int) (isOld : Bool)

/-! ### Reading -/

/-- A part of the text of an expression. -/
inductive Symbol where
  | finish
  | number (n : Int)
  | name (name : String)
  | operator (text : String)
deriving DecidableEq, Repr

/-- The text that is left, behind the symbol that comes next; with the text from the present and
from the last symbol on. -/
structure Progress where
  symbol : Symbol
  rest : List Char
  here : List Char
  last : List Char
  dialect : Dialect

/-- The operators, the longer ones first. -/
def operators : Dialect → List String
  | .plain =>
    ["<<=", ">>=", "<<", ">>", "<=", ">=", "==", "!=", "&&", "||", "*=", "/=", "%=", "+=", "-=",
      "&=", "^=", "|=", "(", ")", "*", "/", "%", "+", "-", "<", ">", "&", "^", "|", "?", ":", "!",
      "~", "="]
  | .extended =>
    ["<<=", ">>=", "**", "++", "--", "<<", ">>", "<=", ">=", "==", "!=", "&&", "||", "*=", "/=",
      "%=", "+=", "-=", "&=", "^=", "|=", "(", ")", "*", "/", "%", "+", "-", "<", ">", "&", "^",
      "|", "?", ":", "!", "~", "=", ",", "[", "]"]

/-- The number at the front of a text that starts with a digit, and the text behind it. -/
def number (cs : List Char) : Int × List Char :=
  let (base, digits) := match cs with
    | '0' :: x :: ds =>
      if (x = 'x' || x = 'X') && (ds.head?.bind Text.hexDigit?).isSome then (16, ds)
      else (8, cs)
    | '0' :: _ => (8, cs)
    | _ => (10, cs)
  let digits := digits.takeWhile fun c => ((Text.hexDigit? c).filter (· < base)).isSome
  let skipped := digits.length + if base = 16 then 2 else 0
  (((Text.inBase? base digits).getD 0 : Nat), cs.drop skipped)

/-- A digit in a base of up to 64. -/
def wideDigit? (base : Nat) (c : Char) : Option Nat :=
  let n :=
    if c.isDigit then c.toNat - 48
    else if c.isLower then c.toNat - 87
    else if c.isUpper then if base ≤ 36 then c.toNat - 55 else c.toNat - 29
    else if c = '@' then 62
    else if c = '_' then 63
    else base
  if n < base then some n else none

/-- The next symbol of a text. -/
def symbol (dialect : Dialect) (cs : List Char) : Except String (Symbol × List Char) :=
  match cs with
  | [] => .ok (.finish, [])
  | c :: _ =>
    if c.isDigit then
      if dialect = .plain then
        let (n, rest) := number cs
        .ok (.number (clamp n), rest)
      else
        let word := cs.takeWhile fun c => c.isAlphanum || c = '_' || c = '#' || c = '@'
        let rest := cs.drop word.length
        let base := word.takeWhile (· ≠ '#')
        if base.length < word.length then
          let base := (Text.natural? base).getD 10
          let digits := (word.dropWhile (· ≠ '#')).drop 1
          match digits.mapM (wideDigit? base) with
          | some ds => .ok (.number (wrap (ds.foldl (fun n d => n * base + d) 0 : Nat)), rest)
          | none => .error "value too great for base"
        else
          let (n, behind) := number word
          if behind = [] || behind = ['x'] || behind = ['X'] then .ok (.number (wrap n), rest)
          else .error "value too great for base"
    else if isNameStart c then
      let name := cs.takeWhile isNamePart
      .ok (.name (String.ofList name), cs.drop name.length)
    else
      match (operators dialect).find? fun operator => operator.toList.isPrefixOf cs with
      | some operator => .ok (.operator operator, cs.drop operator.length)
      | none => .ok (.operator (String.singleton c), cs.drop 1)

/-- What is read from symbols; a failure has the text from the symbol on that is to blame. -/
abbrev Reading := StateT Progress (Except (String × List Char))

def isBlank (c : Char) : Bool := c = ' ' || c = '\t' || c = '\n'

/-- Go on to the next symbol. -/
def advance : Reading Unit := fun progress =>
  let here := progress.rest.dropWhile isBlank
  match symbol progress.dialect here with
  | .ok (symbol, rest) => .ok ((), { progress with symbol, rest, here, last := progress.here })
  | .error message => .error (message, here)

def fail {α : Type} (message : String) : Reading α := fun progress =>
  .error (message, if progress.symbol = .finish then progress.last else progress.here)

/-- Go on if an operator comes next. -/
def isNext (operator : String) : Reading Bool := do
  if (← get).symbol = .operator operator then
    advance
    pure true
  else pure false

/-- The operators between two operands, those that bind the least first. -/
def levels : List (List String) :=
  [["||"], ["&&"], ["|"], ["^"], ["&"], ["==", "!="], ["<=", ">=", "<", ">"], ["<<", ">>"],
    ["+", "-"], ["*", "/", "%"]]

def assignments : List String :=
  ["=", "*=", "/=", "%=", "+=", "-=", "<<=", ">>=", "&=", "^=", "|="]

/-- The parts of an expression, from the loosest on. -/
inductive Part where
  /-- Expressions with commas between them. -/
  | whole
  | assignment
  | choice
  | level (n : Nat)
  | power
  | operand

/-- A part of an expression; `fuel` bounds how many are read. -/
def part : (fuel : Nat) → Part → Reading Expression
  | 0, _ => fail "expecting primary"
  | fuel + 1, .whole => do
    let first ← part fuel .assignment
    if ← isNext "," then return .binary "," first (← part fuel .whole) ""
    return first
  | fuel + 1, .assignment => do
    let start ← get
    match start.symbol with
    | .name name =>
      advance
      let index ← if start.dialect = .extended && (← isNext "[") then do
          let index ← part fuel .whole
          discard (isNext "]")
          pure (some index)
        else pure none
      match (← get).symbol with
      | .operator operator =>
        if assignments.contains operator then
          advance
          return .assign name index operator (← part fuel .assignment)
      | _ => pure ()
      set start
      part fuel .choice
    | _ => part fuel .choice
  | fuel + 1, .choice => do
    let test ← part fuel (.level 0)
    if ← isNext "?" then
      let yes ← part fuel .assignment
      if ← isNext ":" then return .choice test yes (← part fuel .choice)
      if (← get).dialect = .plain then fail "expecting ':'"
      fail "\x60:' expected for conditional expression"
    return test
  | fuel + 1, .level n =>
    match levels[n]? with
    | none => part fuel .power
    | some operators => do
      let first ← part fuel (.level (n + 1))
      joined operators (part fuel (.level (n + 1))) fuel first
  | fuel + 1, .power => do
    let first ← part fuel .operand
    if ← isNext "**" then return .binary "**" first (← part fuel .power) ""
    return first
  | fuel + 1, .operand => do
    let progress ← get
    match progress.symbol with
    | .number n =>
      advance
      return .number n
    | .name name =>
      advance
      let index ← if progress.dialect = .extended && (← isNext "[") then do
          let index ← part fuel .whole
          discard (isNext "]")
          pure (some index)
        else pure none
      if progress.dialect = .extended then
        if ← isNext "++" then return .step name index 1 true
        if ← isNext "--" then return .step name index (-1) true
      return .held name index
    | .operator "(" =>
      advance
      let inner ← part fuel (if progress.dialect = .plain then .assignment else .whole)
      if ← isNext ")" then return inner
      if progress.dialect = .plain then fail "expecting ')'"
      fail "missing \x60)'"
    | .operator operator =>
      if ["-", "+", "!", "~"].contains operator then
        advance
        return .unary operator (← part fuel .operand)
      else if operator = "++" || operator = "--" then
        advance
        match (← get).symbol with
        | .name name =>
          advance
          return .step name none (if operator = "++" then 1 else -1) false
        | _ =>
          let sign := if operator = "++" then "+" else "-"
          return .unary sign (.unary sign (← part fuel .operand))
      else missing
    | .finish => missing
where
  missing : Reading Expression := do
    if (← get).dialect = .plain then fail "expecting primary"
    fail "syntax error: operand expected"
  /-- What operators make of a first operand and those behind it. -/
  joined (operators : List String) (operand : Reading Expression) :
      Nat → Expression → Reading Expression
    | 0, first => pure first
    | fuel + 1, first => do
      match (← get).symbol with
      | .operator operator =>
        if operators.contains operator then
          advance
          let rest := String.ofList (← get).here
          let second ← operand
          joined operators operand fuel (.binary operator first second rest)
        else return first
      | _ => return first

/-- The expression in a text, or the message why there is none. -/
def Expression.read (dialect : Dialect) (cs : List Char) : Except String Expression :=
  let reading : Reading Expression := do
    advance
    if dialect = .extended && (← get).symbol = .finish then return .number 0
    let expression ← part (16 * cs.length + 32) (if dialect = .plain then .assignment else .whole)
    if (← get).symbol = .finish then return expression
    if dialect = .plain then fail "expecting EOF"
    fail "syntax error in expression"
  match reading ⟨.finish, cs, cs, cs, dialect⟩ with
  | .ok (expression, _) => .ok expression
  | .error (message, blamed) =>
    let text := String.ofList cs
    if dialect = .plain then .error ("arithmetic expression: " ++ message ++ ": \"" ++ text ++ "\"")
    else .error (text ++ ": " ++ message ++ " (error token is \"" ++ String.ofList blamed ++ "\")")

/-! ### Values -/

/-- Two numbers combined bit by bit, as words of 64 bits. -/
def bitwise (f : UInt64 → UInt64 → UInt64) (a b : Int) : Int :=
  wrap (f (UInt64.ofInt a) (UInt64.ofInt b)).toNat

/-- What an operator makes of two numbers; nothing when one is divided by zero. -/
def combined? (operator : String) (a b : Int) : Option Int :=
  match operator with
  | "," => some b
  | "|" => some (bitwise (· ||| ·) a b)
  | "^" => some (bitwise (· ^^^ ·) a b)
  | "&" => some (bitwise (· &&& ·) a b)
  | "==" => some (ofBool (a == b))
  | "!=" => some (ofBool (a != b))
  | "<=" => some (ofBool (a ≤ b))
  | ">=" => some (ofBool (b ≤ a))
  | "<" => some (ofBool (a < b))
  | ">" => some (ofBool (b < a))
  | "<<" => some (wrap (a * twoTo (b % 64).toNat))
  | ">>" => some (a.fdiv (twoTo (b % 64).toNat))
  | "+" => some (wrap (a + b))
  | "-" => some (wrap (a - b))
  | "*" => some (wrap (a * b))
  | "**" => some (if b < 0 then 0 else power a (min b.toNat 100000))
  | "/" => if b = 0 then none else some (wrap (a.tdiv b))
  | "%" => if b = 0 then none else some (a.tmod b)
  | _ => none
where
  power (a : Int) : Nat → Int
    | 0 => 1
    | n + 1 => wrap (a * power a n)

/-- A number as a whole text, in the manner of constants, after a sign or none. -/
def constant? (cs : List Char) : Option Int :=
  let cs := cs.dropWhile isBlank
  let (sign, digits) : Int × List Char := match cs with
    | '-' :: ds => (-1, ds)
    | '+' :: ds => (1, ds)
    | ds => (1, ds)
  if !(digits.head?.any Char.isDigit) then (if cs = [] then some 0 else none)
  else
    let (n, rest) := number digits
    if rest.all isBlank then some (sign * n) else none

/-- The text of a variable or of an element of one. -/
def textOf (name : String) (index : Option Int) : Act (Option String) := do
  match index, (← Act.named? name).map Variable.holding with
  | some n, some (.elements items) =>
    let n := if n < 0 then n + (items.getLast?.map fun item => (item.1 : Int)).getD 0 + 1 else n
    return items.lookup n.toNat
  | some n, some (.table items) => return items.lookup (toString n)
  | some n, _ => if n = 0 then Act.value? name else return none
  | none, _ => Act.parameter? name

/-- Set a variable or an element of one. -/
def setAt (name : String) (index : Option Int) (value : Int) : Act Unit := do
  let text := toString value
  match index, (← Act.named? name).map Variable.holding with
  | none, _ => Act.setVariable name text
  | some n, some (.elements items) => Act.hold name (.elements (Act.putElement n.toNat text items))
  | some n, some (.table items) => Act.hold name (.table (Act.putKeyed (toString n) text items))
  | some n, held =>
    let old := match held with
      | some (.text text) => [(0, text)]
      | _ => []
    Act.hold name (.elements (Act.putElement n.toNat text old))

/-- The value of a variable, given how the text that it holds is evaluated. -/
def valueOf (evaluate : List Char → Act Int) (name : String) (index : Option Int) :
    Act Int := do
  match ← textOf name index with
  | none =>
    if (← Act.has .refusesUnset) && !(← Act.isPlain) then
      Act.fail (name ++ ": unbound variable")
    return 0
  | some text =>
    if ← Act.isPlain then
      match constant? text.toList with
      | some n =>
        if clamp n = n then return n
        Act.fail ("Illegal number: " ++ text)
      | none => Act.fail ("Illegal number: " ++ text)
    else evaluate text.toList

/-- The value of an expression in a text, given how the texts of variables are evaluated. -/
def valueIn (evaluate : List Char → Act Int) (source : String) : Expression → Act Int
  | .number n => return n
  | .held name none => valueOf evaluate name none
  | .held name (some index) => do
    valueOf evaluate name (some (← valueIn evaluate source index))
  | .unary operator operand => do
    let n ← valueIn evaluate source operand
    return match operator with
      | "-" => wrap (-n)
      | "!" => ofBool (n == 0)
      | "~" => -n - 1
      | _ => n
  | .binary "&&" first second _ => do
    if (← valueIn evaluate source first) = 0 then return 0
    return ofBool ((← valueIn evaluate source second) != 0)
  | .binary "||" first second _ => do
    if (← valueIn evaluate source first) ≠ 0 then return 1
    return ofBool ((← valueIn evaluate source second) != 0)
  | .binary operator first second rest => do
    let a ← valueIn evaluate source first
    let b ← valueIn evaluate source second
    match combined? operator a b with
    | some n => return n
    | none =>
      if ← Act.isPlain then
        Act.fail ("arithmetic expression: division by zero: \"" ++ source ++ "\"")
      Act.fail (source ++ ": division by 0 (error token is \"" ++ rest ++ "\")")
  | .choice test yes no => do
    if (← valueIn evaluate source test) ≠ 0 then valueIn evaluate source yes
    else valueIn evaluate source no
  | .assign name index operator value => do
    let index ← match index with
      | some index => do pure (some (← valueIn evaluate source index))
      | none => pure none
    let b ← valueIn evaluate source value
    let value ← if operator = "=" then pure b
      else do
        let a ← valueOf evaluate name index
        match combined? (String.ofList operator.toList.dropLast) a b with
        | some n => pure n
        | none =>
          if ← Act.isPlain then
            Act.fail ("arithmetic expression: division by zero: \"" ++ source ++ "\"")
          Act.fail (source ++ ": division by 0 (error token is \"" ++ toString b ++ "\")")
    setAt name index value
    return value
  | .step name index amount isOld => do
    let index ← match index with
      | some index => do pure (some (← valueIn evaluate source index))
      | none => pure none
    let old ← valueOf evaluate name index
    setAt name index (wrap (old + amount))
    return if isOld then old else wrap (old + amount)

/-- The value of an expression; `fuel` bounds how far variables lead to other ones. -/
def evaluateFrom : (fuel : Nat) → List Char → Act Int
  | 0, cs => Act.fail (String.ofList cs ++ ": expression recursion level exceeded")
  | fuel + 1, cs => do
    match Expression.read (← get).dialect cs with
    | .ok expression => valueIn (evaluateFrom fuel) (String.ofList cs) expression
    | .error message => Act.fail message

/-- The value of the expression in a text. -/
def evaluate (cs : List Char) : Act Int := evaluateFrom 64 cs

end TrackSelect.Shell.Arithmetic
