import TrackSelect.Keyed
import TrackSelect.Machine.Shell.Source
import TrackSelect.Machine.System.Process
import TrackSelect.Text.Bytes
import TrackSelect.Text.Numeral

/-!
# The state of a shell

A shell keeps variables, functions, switches and the processes that it has started. What it does
is an `Act`: it asks the system like any program, changes the state, and may leave the commands
that it is inside of by a `Jump`. All texts are byte texts.
-/

namespace TrackSelect.Shell

open TrackSelect.System (Pid Program Process)

/-- What a variable holds. -/
inductive Holding where
  | nothing
  | text (text : String)
  /-- The elements of an array, by ascending indices. -/
  | elements (items : List (Nat × String))
  /-- The elements of an array by keys. -/
  | table (items : List (String × String))
deriving DecidableEq, Repr

structure Variable where
  holding : Holding
  isExported : Bool := false
  isReadOnly : Bool := false
  /-- Whether what it is set to is an expression. -/
  isInteger : Bool := false
deriving DecidableEq, Repr

/-- The text of a variable. -/
def Variable.text? (held : Variable) : Option String :=
  match held.holding with
  | .nothing => none
  | .text text => some text
  | .elements items => items.lookup 0
  | .table items => items.lookup "0"

/-- What a shell can be told to do differently. -/
inductive Switch where
  | exitsOnFailure
  | refusesUnset
  | showsCommands
  | showsSource
  | keepsPatterns
  | keepsFiles
  | exportsAll
  | readsOnly
  /-- A pipeline fails if any stage of it does. -/
  | failsInPipes
deriving DecidableEq, Repr

namespace Switch

/-- All switches with their letters and names. -/
def all : List (Switch × Char × String) :=
  [(exitsOnFailure, 'e', "errexit"), (keepsPatterns, 'f', "noglob"), (readsOnly, 'n', "noexec"),
    (showsCommands, 'x', "xtrace"), (showsSource, 'v', "verbose"), (keepsFiles, 'C', "noclobber"),
    (exportsAll, 'a', "allexport"), (refusesUnset, 'u', "nounset"),
    (failsInPipes, ' ', "pipefail")]

def ofLetter? (letter : Char) : Option Switch :=
  if letter = ' ' then none else (all.find? (·.2.1 = letter)).map (·.1)

def ofName? (dialect : Dialect) (name : String) : Option Switch :=
  if dialect = .plain && name = "pipefail" then none
  else (all.find? (·.2.2 = name)).map (·.1)

end Switch

structure Function where
  line : Nat
  body : Script

/-- A process in the background. -/
structure Work where
  pid : Pid
  /-- All its processes that have not ended. -/
  pids : List Pid
  status : Option Nat := none

structure State where
  dialect : Dialect
  /-- The name in messages, which is the parameter zero. -/
  name : String
  arguments : List String := []
  bindings : List (String × Variable) := []
  functions : List (String × Function) := []
  switches : List Switch := []
  /-- The status of the last command, and of the last script in a word of the present one. -/
  status : Nat := 0
  outputStatus : Nat := 0
  /-- The statuses of the stages of the last pipeline. -/
  stages : List Nat := []
  pid : Pid
  lastWork : Option Pid := none
  works : List Work := []
  /-- What is done when a signal has been caught, or, for zero, at the end. -/
  traps : List (Nat × String) := []
  /-- The line of the present command. -/
  line : Nat := 1
  /-- How many loops and functions the present command is in. -/
  loops : Nat := 0
  functionDepth : Nat := 0
  sourceDepth : Nat := 0
  /-- What the variables held that are local to each function, the inner ones first. -/
  scopes : List (List (String × Option Variable)) := []
  texts : List (Nat × Word) := []
  nextText : Nat := 0
  /-- The command of the shell itself that is being done. -/
  command : Option String := none
  /-- The characters of an argument that have been taken by `getopts`. -/
  optionsTaken : Nat := 0
  mask : Nat := 18
  isInner : Bool := false
  /-- The status with which the shell is about to end. -/
  leaving : Option Nat := none

/-- How commands are left. -/
inductive Jump where
  | breaks (loops : Nat)
  | continues (loops : Nat)
  | returns (status : Nat)
  | exits (status : Nat)
  /-- A failure that ends the shell. -/
  | fails (status : Nat)
deriving DecidableEq, Repr

abbrev Act := ExceptT Jump (StateT State Program)

namespace Act

variable {α β : Type}

/-- Do something as any program. -/
def program (program : Program α) : Act α := ExceptT.mk fun state => do
  let a ← program
  pure (.ok a, state)

def ask (request : System.Request) : Act request.Answer := program (Program.ask request)

/-- Do something, and catch the way in which it is left. -/
def attempt (shell : Act α) : Act (Except Jump α) := ExceptT.mk fun state => do
  let (result, state) ← shell.run state
  pure (.ok result, state)

/-- Do something in a process of its own. -/
def fork (body : Act Nat) : Act Pid := ExceptT.mk fun state => do
  let child : Program Nat := do
    let (result, state) ← body.run state
    match result with
    | .ok status | .error (.exits status) | .error (.fails status) | .error (.returns status) =>
      pure status
    | .error _ => pure state.status
  let pid ← Program.fork child.process
  pure (.ok pid, state)

/-- End the process. -/
def finish (status : Nat) : Act α := program (Program.finish status)

/-- Repeat a step from value to value until it has a result. Others may go on between steps. -/
def loopFrom {σ : Type} (step : σ → Act (σ ⊕ α)) : (fuel : Nat) → σ → Act α
  | 0, _ => program Program.stuck
  | fuel + 1, s => do
    match ← step s with
    | .inl s =>
      ask .tick
      loopFrom step fuel s
    | .inr a => pure a

def loop {σ : Type} (start : σ) (step : σ → Act (σ ⊕ α)) : Act α :=
  loopFrom step Program.patience start

/-! ### Messages -/

/-- Write a text, as far as that is possible. -/
def write (channel : Nat) (text : String) : Act Unit := do
  discard (program (Program.write channel (Text.Bytes.packString text)))

/-- What stands in front of a message. -/
def heading : Act String := do
  let state ← get
  let line := match state.dialect with
    | .plain => toString state.line ++ ": "
    | .extended => "line " ++ toString state.line ++ ": "
  let command := match state.command with
    | some command => command ++ ": "
    | none => ""
  return state.name ++ ": " ++ line ++ command

def complain (message : String) : Act Unit := do
  write 2 ((← heading) ++ message ++ "\n")

/-- Fail with a message. -/
def fail (message : String) : Act α := do
  complain message
  throw (.fails (if (← get).dialect = .plain then 2 else 1))

def isPlain : Act Bool := do return (← get).dialect = .plain

def has (switch : Switch) : Act Bool := do return (← get).switches.contains switch

def turn (switch : Switch) (isOn : Bool) : Act Unit :=
  modify fun state =>
    let others := state.switches.filter (· ≠ switch)
    { state with switches := if isOn then switch :: others else others }

/-! ### Variables -/

def named? (name : String) : Act (Option Variable) := do
  return Keyed.get? name (← get).bindings

/-- The text that a variable holds, if it holds any. -/
def value? (name : String) : Act (Option String) := do
  let state ← get
  if name = "LINENO" && state.dialect = .extended then return some (toString state.line)
  return (Keyed.get? name state.bindings).bind Variable.text?

def putVariable (name : String) (held : Variable) : Act Unit :=
  modify fun state => { state with bindings := Keyed.put name held state.bindings }

def dropVariable (name : String) : Act Unit :=
  modify fun state => { state with bindings := state.bindings.filter (·.1 ≠ name) }

/-- What stands in front of the message that a variable cannot be set. -/
def refuse (name : String) : Act α := do
  if ← isPlain then fail (name ++ ": is read only")
  else fail (name ++ ": readonly variable")

/-- Let a variable hold something. -/
def hold (name : String) (holding : Holding) : Act Unit := do
  let held := ((← named? name).getD { holding := .nothing })
  if held.isReadOnly then refuse name
  let isExported := held.isExported || (← has .exportsAll)
  putVariable name { held with holding, isExported }
  if name = "OPTIND" then modify fun state => { state with optionsTaken := 0 }

/-- Set an element in a list of elements with ascending indices. -/
def putElement (index : Nat) (text : String) : List (Nat × String) → List (Nat × String)
  | [] => [(index, text)]
  | (held, other) :: rest =>
    if index = held then (index, text) :: rest
    else if index < held then (index, text) :: (held, other) :: rest
    else (held, other) :: putElement index text rest

/-- Set an element in a list of elements by keys. -/
def putKeyed (key text : String) (items : List (String × String)) : List (String × String) :=
  if items.any (·.1 = key) then items.map fun item => if item.1 = key then (key, text) else item
  else items ++ [(key, text)]

/-- Set a variable to a text; of an array, its first element. -/
def setVariable (name text : String) : Act Unit := do
  match (← named? name).map Variable.holding with
  | some (.elements items) => hold name (.elements (putElement 0 text items))
  | some (.table items) => hold name (.table (putKeyed "0" text items))
  | _ => hold name (.text text)

/-- The environment of programs that the shell starts. -/
def environment : Act (List (String × String)) := do
  return (← get).bindings.filterMap fun (name, held) =>
    if held.isExported then (Variable.text? held).map fun text => (name, text) else none

/-- Make a variable local to the present function. -/
def makeLocal (name : String) : Act Unit := do
  let held ← named? name
  modify fun state => match state.scopes with
    | [] => state
    | scope :: rest =>
      if scope.any (·.1 = name) then state
      else { state with scopes := ((name, held) :: scope) :: rest }

/-- Give the variables of a scope back what they held. -/
def leaveScope : Act Unit :=
  modify fun state => match state.scopes with
    | [] => state
    | scope :: rest =>
      let bindings := scope.foldl (fun bindings (name, held) =>
        match held with
        | some held => Keyed.put name held bindings
        | none => bindings.filter (·.1 ≠ name)) state.bindings
      { state with bindings, scopes := rest }

/-! ### Parameters -/

/-- The letters of the switches that are on. -/
def letters (state : State) : String :=
  String.ofList (Switch.all.filterMap fun (switch, letter, _) =>
    if state.switches.contains switch && letter ≠ ' ' then some letter else none)

/-- The value of a parameter that is not a list. -/
def parameter? (name : String) : Act (Option String) := do
  let state ← get
  match name with
  | "?" => return some (toString state.status)
  | "$" => return some (toString state.pid)
  | "#" => return some (toString state.arguments.length)
  | "!" => return state.lastWork.map toString
  | "-" => return some (letters state)
  | "0" => return some state.name
  | name =>
    match Text.natural? name.toList with
    | some n => return state.arguments[n - 1]?
    | none => value? name

/-- The characters between which words are split. -/
def separators : Act (List Char) := do
  return ((← value? "IFS").map String.toList).getD [' ', '\t', '\n']

/-- What stands between arguments that are joined. -/
def joint : Act (List Char) := do
  match ← value? "IFS" with
  | some text => return text.toList.take 1
  | none => return [' ']

end Act

end TrackSelect.Shell
