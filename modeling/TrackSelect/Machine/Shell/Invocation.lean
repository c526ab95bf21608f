import TrackSelect.Machine.Shell.Interpreter

/-!
# Calls of a shell

A shell is called with a text of commands, with the path of a script, or with commands in its
input; switches and arguments of the script come with it.
-/

namespace TrackSelect.Shell.Invocation

open TrackSelect.System (Program)

/-- What a shell is called for. -/
inductive Task where
  | text (text : String)
  | script (path : String)
  | input

/-- A call of a shell. -/
structure Call where
  /-- Whether there is a text of commands, and whether commands come from the input. -/
  hasText : Bool := false
  hasInput : Bool := false

/-- Read the options of a call; `fuel` bounds their number. -/
def options : (fuel : Nat) → Call → List String → Act (Call × List String)
  | 0, call, arguments => return (call, arguments)
  | _, call, [] => return (call, [])
  | fuel + 1, call, argument :: rest => do
    match argument.toList with
    | ['-'] | ['-', '-'] => return (call, rest)
    | '-' :: '-' :: _ =>
      if ← Act.isPlain then Act.fail "Illegal option --"
      options fuel call rest
    | sign :: letters =>
      if sign ≠ '-' && sign ≠ '+' then return (call, argument :: rest)
      let call := { call with
        hasText := call.hasText || letters.contains 'c'
        hasInput := call.hasInput || letters.contains 's' }
      Builtin.turnLetters (sign = '-') (letters.filter fun c => c ≠ 'c' && c ≠ 's' && c ≠ 'l' && c ≠ 'o')
      if letters.contains 'o' then
        match Switch.ofName? (← get).dialect (rest.headD "") with
        | some switch => Act.turn switch (sign = '-')
        | none => Act.fail ("Illegal option -o " ++ rest.headD "")
        options fuel call (rest.drop 1)
      else options fuel call rest
    | [] => return (call, argument :: rest)

/-- What is to be done, with the name and the arguments of the script. -/
def task (arguments : List String) : Act Task := do
  let (call, rest) ← options (arguments.length + 1) {} arguments
  let isPlain ← Act.isPlain
  if call.hasText then
    match rest with
    | [] =>
      if isPlain then Act.fail "-c requires an argument"
      else
        Act.write 2 ((← get).name ++ ": -c: option requires an argument\n")
        throw (.fails 2)
    | text :: rest =>
      modify fun state => { state with
        name := rest.headD state.name, arguments := rest.drop 1 }
      return .text text
  else match call.hasInput, rest with
    | false, path :: rest =>
      modify fun state => { state with arguments := rest }
      return .script path
    | _, rest =>
      modify fun state => { state with arguments := rest }
      return .input

/-- The depth of scripts inside of one another that a shell bears. -/
def depth : Nat := Program.patience

/-- Do what a shell is called for. -/
def perform (arguments : List String) : Act Nat := do
  let run := Interpreter.run depth
  let task ← task arguments
  let commands (bytes : Except Errno ByteArray) : List Char :=
    match bytes with
    | .ok bytes => Text.Bytes.unpack bytes
    | .error _ => []
  match task with
  | .text text => Interpreter.runText run { isLast := true } 1 text.toList
  | .input => Interpreter.runText run {} 1 (commands (← Act.program (Program.readAll 0)))
  | .script path =>
    match ← Act.ask (.open path .input) with
    | .error errno =>
      if ← Act.isPlain then
        Act.fail (Redirecting.reason true false path errno)
      else
        Act.write 2 ((← get).name ++ ": " ++ path ++ ": " ++ errno.text ++ "\n")
        throw (.fails (if errno = .noEntry then 127 else 126))
    | .ok number =>
      let content ← Act.program (Program.readAll number)
      Act.ask (.close number)
      match content with
      | .error errno =>
        if ← Act.isPlain then throw (.fails 2)
        else
          Act.write 2 ((← get).name ++ ": " ++ path ++ ": " ++ errno.text ++ "\n")
          throw (.fails 126)
      | .ok bytes =>
        modify fun state => { state with name := path }
        Interpreter.runText run {} 1 (commands (.ok bytes))

/-- The state in which a shell starts. -/
def start (dialect : Dialect) (called : String) (environment : List (String × String))
    (pid parent : Nat) (place : String) : State :=
  let imported : List (String × Variable) := environment.filterMap fun (name, text) =>
    if isName name.toList then some (name, { holding := .text text, isExported := true }) else none
  let plain (name text : String) : String × Variable := (name, { holding := .text text })
  let own := [plain "IFS" " \t\n", plain "OPTIND" "1", plain "PS1" "# ", plain "PS2" "> ",
    plain "PS4" "+ ", plain "PPID" (toString parent),
    ("PWD", { holding := .text place, isExported := true })]
  { dialect, name := called, pid, line := 0, bindings := Keyed.ofList (imported ++ own) }

/-- A shell as a program. -/
def program (dialect : Dialect) (called : String) (arguments : List String)
    (environment : List (String × String)) : Program Nat := do
  let (pid, parent) ← Program.ask .self
  let place ← Program.ask .place
  let run := Interpreter.run depth
  let (result, _) ← (Interpreter.ended run (perform arguments)).run
    (start dialect called environment pid parent place)
  match result with
  | .ok status => pure status
  | .error _ => pure 2

end TrackSelect.Shell.Invocation
