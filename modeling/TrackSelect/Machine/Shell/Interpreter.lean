import TrackSelect.Machine.Shell.Builtin.Input
import TrackSelect.Machine.Shell.Builtin.Variables
import TrackSelect.Machine.Shell.Builtin.Work
import TrackSelect.Machine.Shell.Grammar
import TrackSelect.Machine.Shell.Redirecting

/-!
# Running scripts

`Interpreter.run` does what a script says and gives its status. Every construct is done given how
the scripts inside of it are run.
-/

namespace TrackSelect.Shell

open TrackSelect.System (Pid Program)

/-- Where a script stands. -/
structure Position where
  /-- Whether a failure of it is looked at, so that the shell does not end because of it. -/
  isTested : Bool := false
  /-- Whether the shell ends behind it. -/
  isLast : Bool := false

namespace Interpreter

/-- How scripts are run. -/
abbrev Run := Position → Script → Act Nat

/-! ### Texts of commands -/

/-- Fail because a text is no script. -/
def unreadable {α : Type} (problem : Unreadable) : Act α := do
  modify fun state => { state with line := problem.line }
  Act.complain problem.message
  throw (.fails 2)

/-- Run the commands in a text, line by line. -/
def runText (run : Run) (position : Position) (line : Nat) (text : List Char) : Act Nat := do
  let state ← get
  let source := Grammar.source state.dialect text line state.nextText
  Act.loop (source, 0) fun (source, status) => do
    match Grammar.line? source with
    | .error problem => unreadable problem
    | .ok (none, _) => return .inr status
    | .ok (some (script, isOver), source) =>
      modify fun state => { state with
        texts := source.texts ++ state.texts, nextText := source.next }
      let source := { source with texts := [] }
      let isNothing := match script with
        | .nothing => true
        | _ => false
      let result ← if (← Act.has .readsOnly) then pure status
        else run { position with isLast := position.isLast && isOver } script
      return .inl (source, if isNothing then status else result)

/-! ### Ends of processes -/

/-- What a body comes to that is all that is left of a process: the command for its end is done
behind it. -/
def ended (run : Run) (body : Act Nat) : Act Nat := do
  let status ← match ← Act.attempt body with
    | .ok status | .error (.exits status) | .error (.fails status) | .error (.returns status) =>
      pure status
    | .error _ => do pure (← get).status
  match (← get).traps.lookup 0 with
  | none => return status
  | some text =>
    modify fun state => { state with
      traps := state.traps.filter (·.1 ≠ 0), status, leaving := some status, command := none }
    match ← Act.attempt (runText run {} (← get).line text.toList) with
    | .error (.exits status) | .error (.fails status) => return status
    | _ => return status

/-- Run something in a process of its own, to its end. -/
def forked (run : Run) (body : Act Nat) : Act Pid :=
  Act.fork do
    Jobs.becomeInner
    ended run body

/-- Do what is to be done when signals have been caught. -/
def handleSignals (run : Run) : Act Unit := do
  if (← get).traps.isEmpty then return
  for number in ← Act.ask .caught do
    match (← get).traps.lookup number with
    | none | some "" => pure ()
    | some text =>
      let status := (← get).status
      discard (runText run {} (← get).line text.toList)
      modify fun state => { state with status }

/-! ### Scripts in words -/

/-- Let the output of a process go to a pipe. -/
def toPipe (out into : Nat) : Act Unit := do
  Act.ask (.close out)
  if into ≠ 1 then
    discard (Act.ask (.copy into 1))
    Act.ask (.close into)

/-- The output of a script, without the line ends at its end. -/
def output (run : Run) (body : Script) : Act (List Char) := do
  let (out, into) ← Act.ask .pipe
  let pid ← forked run do
    toPipe out into
    run { isLast := true } body
  Act.ask (.close into)
  let result ← Act.program (Program.readAll out)
  Act.ask (.close out)
  let statuses ← Jobs.waitFor [pid]
  modify fun state => { state with outputStatus := statuses.headD 0 }
  let cs := match result with
    | .ok bytes => (Text.Bytes.unpack bytes).filter (· ≠ '\x00')
    | .error _ => []
  return (cs.reverse.dropWhile (· = '\n')).reverse

/-- The path of a pipe from or to a script. -/
def channel (run : Run) (reads : Bool) (body : Script) : Act (List Char) := do
  let (out, into) ← Act.ask .pipe
  let (mine, other, target) := if reads then (out, into, 1) else (into, out, 0)
  discard <| forked run do
    Act.ask (.close mine)
    discard (Act.ask (.copy other target))
    Act.ask (.close other)
    run { isLast := true } body
  Act.ask (.close other)
  return ("/dev/fd/" ++ toString mine).toList

def others (run : Run) : Expansion.Others := ⟨output run, channel run⟩

/-! ### Settings -/

/-- The text that is set, with what is added to it in front. -/
def added (held : Option Variable) (adds : Bool) (old : Option String) (text : String) :
    Act String := do
  let isInteger := (held.map (·.isInteger)).getD false
  let old := old.getD ""
  if isInteger then
    let n ← Arithmetic.evaluate text.toList
    let m ← if adds then Arithmetic.evaluate old.toList else pure 0
    return toString (m + n)
  return if adds then old ++ text else text

/-- Set an element of a variable. -/
def setElement (others : Expansion.Others) (name : String) (index : Word) (adds : Bool)
    (text : String) : Act Unit := do
  let held ← Act.named? name
  let inner : Expansion.Inner := Expansion.parts others Program.patience
  let key ← Expansion.keyOf inner name index
  let old := match key, held.map Variable.holding with
    | .inl n, some (.elements items) => items.lookup n
    | .inl 0, some (.text text) => some text
    | .inr key, some (.table items) => items.lookup key
    | _, _ => none
  Expansion.assign name (some key) (← added held adds old text)

/-- The elements of an array from the items that are written. -/
def elements (others : Expansion.Others) (next : Nat) (sofar : List (Nat × String)) :
    List (Option Word × Word) → Act (List (Nat × String))
  | [] => return sofar
  | (some index, word) :: rest => do
    let inner : Expansion.Inner := Expansion.parts others Program.patience
    let n ← Arithmetic.evaluate (← Expansion.wholeOf inner index)
    let text ← Expansion.setting others word
    elements others (n.toNat + 1) (Act.putElement n.toNat text sofar) rest
  | (none, word) :: rest => do
    let texts ← Expansion.texts others word
    let sofar := texts.zipIdx.foldl (fun sofar (text, i) =>
      Act.putElement (next + i) text sofar) sofar
    elements others (next + texts.length) sofar rest

/-- The elements of an array by keys. -/
def keyedElements (others : Expansion.Others) (sofar : List (String × String)) :
    List (Option Word × Word) → Act (List (String × String))
  | [] => return sofar
  | (index, word) :: rest => do
    let key ← Expansion.whole others (index.getD [])
    let text ← Expansion.setting others word
    keyedElements others (Act.putKeyed key text sofar) rest

/-- Set a variable, and give what has been set, for showing. -/
def set (others : Expansion.Others) : Setting → Act String
  | .set name index adds (.word word) => do
    let text ← Expansion.setting others word
    match index with
    | some index => setElement others name index adds text
    | none =>
      let held ← Act.named? name
      Act.setVariable name (← added held adds (held.bind Variable.text?) text)
    return name ++ "=" ++ text
  | .set name _ adds (.elements items) => do
    match (← Act.named? name).map Variable.holding with
    | some (.table old) =>
      Act.hold name (.table (← keyedElements others (if adds then old else []) items))
    | held =>
      let old : List (Nat × String) := if !adds then [] else match held with
        | some (.elements items) => items
        | some (.text text) => [(0, text)]
        | _ => []
      let next := (old.getLast?.map fun item => item.1 + 1).getD 0
      Act.hold name (.elements (← elements others next old items))
    return name ++ "=()"

def nameOf : Setting → String
  | .set name .. => name

/-! ### Commands -/

/-- What a command is. -/
inductive Command where
  /-- Nothing but settings and redirections. -/
  | nothing
  | special (name : String) (builtin : Builtin)
  | builtin (name : String) (builtin : Builtin)
  | function (function : Function)
  | program
  /-- The next two start another program in place of the shell, or run other commands. -/
  | replace
  | text
  | source

/-- The commands of the shell itself that need nothing else. -/
def builtins : List (String × Builtin) :=
  [("true", fun _ _ => return 0), ("false", fun _ _ => return 1), ("echo", Builtin.echo),
    ("printf", Builtin.printf), ("test", Builtin.test), ("[", Builtin.test),
    ("cd", Builtin.enter), ("chdir", Builtin.enter), ("pwd", Builtin.place),
    ("read", Builtin.read), ("getopts", Builtin.getopts), ("local", Builtin.localVariables),
    ("umask", Builtin.umask), ("wait", Builtin.wait), ("kill", Builtin.kill),
    ("jobs", Builtin.jobs), ("ulimit", Builtin.limit), ("hash", fun _ _ => return 0),
    ("alias", fun _ _ => return 0), ("unalias", fun _ _ => return 0)]

def extendedBuiltins : List (String × Builtin) :=
  [("declare", Builtin.declare), ("typeset", Builtin.declare), ("let", Builtin.evaluateAll),
    ("mapfile", Builtin.readArray), ("readarray", Builtin.readArray),
    ("shopt", fun _ _ => return 0), ("disown", fun _ _ => return 0)]

/-- Leave loops or go on with them. -/
def leaveLoops (jump : Nat → Jump) : Builtin := fun _ arguments => do
  let n ← match arguments with
    | [] => pure 1
    | argument :: _ => Builtin.number argument
  if n = 0 && (← Act.isPlain) then Act.fail ("Illegal number: " ++ arguments.headD "")
  let loops := (← get).loops
  if loops = 0 then return 0
  throw (jump (min n loops))

def exit : Builtin := fun _ arguments => do
  match arguments with
  | [] =>
    let state ← get
    throw (.exits (state.leaving.getD state.status))
  | argument :: _ =>
    let isNegative := !(← Act.isPlain) && argument.toList.head? = some '-'
    let n ← Builtin.number (if isNegative then String.ofList (argument.toList.drop 1) else argument)
    throw (.exits (if isNegative then 256 - n % 256 else n))

def return_ : Builtin := fun _ arguments => do
  match arguments with
  | [] => throw (.returns (← get).status)
  | argument :: _ => throw (.returns (← Builtin.number argument))

/-- The special commands of the shell itself that need nothing else. -/
def specialBuiltins : List (String × Builtin) :=
  [(":", fun _ _ => return 0), ("break", leaveLoops .breaks), ("continue", leaveLoops .continues),
    ("exit", exit), ("return", return_), ("export", Builtin.exportVariables),
    ("readonly", Builtin.protectVariables), ("set", Builtin.configure), ("shift", Builtin.shift),
    ("times", Builtin.times), ("trap", Builtin.trap), ("unset", Builtin.unset)]

/-- The words with a meaning of their own, as far as a shell tells of them. -/
def isKeyword (dialect : Dialect) (name : String) : Bool := (Grammar.keywords dialect).contains name

/-- What a name stands for as a command of the shell itself. -/
def own? (dialect : Dialect) (name : String) : Option Command :=
  match specialBuiltins.lookup name with
  | some builtin => some (.special name builtin)
  | none =>
    match name with
    | "eval" => some .text
    | "." => some .source
    | "exec" => some .replace
    | name =>
      if dialect = .extended && name = "source" then some .source
      else
        let known := if dialect = .plain then builtins else extendedBuiltins ++ builtins
        (known.lookup name).map (.builtin name)

/-- Whether a command is one with a special meaning, where a failure ends the shell. -/
def Command.isSpecial : Command → Bool
  | .special .. | .replace | .text | .source => true
  | _ => false

/-! ### Programs -/

/-- The path of a program in the folders for programs, or why there is none. -/
def findProgram (name : String) : Act (Except Errno String) := do
  if name.toList.contains '/' then return .ok name
  let folders := (((← Act.value? "PATH").getD "").splitOn ":").map fun folder =>
    if folder = "" then "." else folder
  find folders .noEntry
where
  find : List String → Errno → Act (Except Errno String)
    | [], errno => return .error errno
    | folder :: rest, errno => do
      let path := folder ++ "/" ++ name
      match ← Act.ask (.inspect path) with
      | .ok facts =>
        if facts.kind = .folder then find rest errno
        else if facts.executable then return .ok path
        else find rest .noPermission
      | .error _ => find rest errno

/-- Why a program cannot be started, and the status for that. -/
def startFailure (name : String) (errno : Errno) : Act (String × Nat) := do
  let isMissing := errno = .noEntry || errno = .notDirectory || errno = .nameTooLong
  let status := if isMissing then 127 else 126
  if ← Act.isPlain then
    return (name ++ ": " ++ (if errno = .noEntry then "not found" else errno.text), status)
  else if !name.toList.contains '/' && errno = .noEntry then
    return (name ++ ": command not found", status)
  else
    let isFolder := match ← Act.ask (.inspect name) with
      | .ok facts => facts.kind = .folder
      | .error _ => false
    let text := if errno = .noPermission && isFolder then "Is a directory" else errno.text
    return (name ++ ": " ++ text, status)

/-- Start a program in place of the shell. -/
def become {α : Type} (path name : String) (arguments : List String) : Act α := do
  let environment ← Act.environment
  let errno ← Act.ask (.become path name arguments environment)
  let errno ← if errno = .notExecutable then
      let shell := if ← Act.isPlain then "/bin/sh" else "/bin/bash"
      Act.ask (.become shell shell (path :: arguments) environment)
    else pure errno
  let (message, status) ← startFailure name errno
  Act.complain message
  throw (.exits status)

/-- Start a program, and wait for it unless the shell ends behind it. -/
def runProgram (position : Position) (name : String) (arguments : List String) : Act Nat := do
  match ← findProgram name with
  | .error errno =>
    let (message, _) ← startFailure name errno
    Act.complain message
    return 127
  | .ok path =>
    if position.isLast && (← get).traps.isEmpty then become path name arguments
    let pid ← Act.fork do
      Jobs.becomeInner
      become path name arguments
    return (← Jobs.waitFor [pid]).headD 0

/-! ### Functions, texts and files -/

/-- Call a function. -/
def call (run : Run) (position : Position) (function : Function) (arguments : List String) :
    Act Nat := do
  let before ← get
  modify fun state => { state with
    arguments, loops := 0, functionDepth := state.functionDepth + 1
    scopes := [] :: state.scopes }
  let result ← Act.attempt (run { isTested := position.isTested } function.body)
  Act.leaveScope
  modify fun state => { state with
    arguments := before.arguments, loops := before.loops, functionDepth := before.functionDepth }
  match result with
  | .ok status | .error (.returns status) => return status
  | .error jump => throw jump

/-- Run the commands in the arguments. -/
def runArguments (run : Run) (position : Position) (arguments : List String) : Act Nat := do
  let text := " ".intercalate arguments
  runText run { isTested := position.isTested } (← get).line text.toList

/-- The path of a file with commands. -/
def findSource (name : String) : Act (Option String) := do
  if name.toList.contains '/' then return some name
  let folders := (((← Act.value? "PATH").getD "").splitOn ":")
  let folders := if ← Act.isPlain then folders else folders ++ ["."]
  let paths := folders.map fun folder => if folder = "" then name else folder ++ "/" ++ name
  paths.findM? fun path => do
    match ← Act.ask (.inspect path) with
    | .ok facts => return facts.kind = .file
    | .error _ => return false

/-- Run the commands in a file. -/
def runFile (run : Run) (arguments : List String) : Act Nat := do
  match arguments with
  | [] =>
    if ← Act.isPlain then return 0
    Act.fail "filename argument required"
  | name :: rest =>
    let isPlain ← Act.isPlain
    match ← findSource name with
    | none =>
      if isPlain then Act.fail (name ++ ": not found")
      Act.fail (name ++ ": No such file or directory")
    | some path =>
      match ← Act.ask (.open path .input) with
      | .error errno =>
        if isPlain then Act.fail (Redirecting.reason true false path errno)
        let before := (← get).command
        modify fun state => { state with command := none }
        Act.complain (path ++ ": " ++ errno.text)
        modify fun state => { state with command := before }
        throw (.fails 1)
      | .ok number =>
        let content ← Act.program (Program.readAll number)
        Act.ask (.close number)
        let before ← get
        let cs := match content with
          | .ok bytes => Text.Bytes.unpack bytes
          | .error _ => []
        modify fun state => { state with
          command := if isPlain then some path else state.command
          sourceDepth := state.sourceDepth + 1
          name := if isPlain then state.name else state.name
          arguments := if !isPlain && !rest.isEmpty then rest else state.arguments }
        let result ← Act.attempt (runText run {} 1 cs)
        modify fun state => { state with
          command := before.command, sourceDepth := before.sourceDepth
          arguments := if !isPlain && !rest.isEmpty then before.arguments else state.arguments }
        match result with
        | .ok status | .error (.returns status) => return status
        | .error jump => throw jump

/-- Do a command of the shell itself. Its failures end the shell only if it is a special one. -/
def withName (name : String) (endsShell : Bool) (body : Act Nat) : Act Nat := do
  let before := (← get).command
  modify fun state => { state with command := some name }
  let result ← Act.attempt body
  modify fun state => { state with command := before }
  match result with
  | .ok status => return status
  | .error (.fails status) => if endsShell then throw (.fails status) else return status
  | .error jump => throw jump

/-! ### What a name stands for -/

/-- How a command is told of. -/
def describe (verbose : Bool) (name : String) : Act (Option String) := do
  let state ← get
  if isKeyword state.dialect name then
    return some (if verbose then name ++ " is a shell keyword" else name)
  else if (Keyed.get? name state.functions).isSome then
    return some (if verbose then
      name ++ (if state.dialect = .plain then " is a shell function" else " is a function")
      else name)
  else match own? state.dialect name with
    | some command =>
      let isSpecial := command.isSpecial && state.dialect = .plain
      return some (if !verbose then name
        else if isSpecial then name ++ " is a special shell builtin"
        else name ++ " is a shell builtin")
    | none =>
      if ["command", "type", "wait", "fg", "bg"].contains name then
        return some (if verbose then name ++ " is a shell builtin" else name)
      match ← findProgram name with
      | .ok path =>
        match ← Act.ask (.inspect path) with
        | .ok facts =>
          if facts.kind = .folder || !facts.executable then return none
          return some (if verbose then name ++ " is " ++ path else path)
        | .error _ => return none
      | .error _ => return none

/-- Tell what names stand for. -/
def describeAll (verbose isType : Bool) (names : List String) : Act Nat := do
  let isPlain ← Act.isPlain
  let mut status := 0
  let mut text := ""
  for name in names do
    match ← describe verbose name with
    | some line => text := text ++ line ++ "\n"
    | none =>
      status := if isPlain then 127 else 1
      if verbose && isPlain then text := text ++ name ++ ": not found\n"
      else if verbose || isType then Act.complain (name ++ ": not found")
  discard (Builtin.put "type" text)
  return status

/-! ### Simple commands -/

/-- The kind of a command, the words of it, and whether its failures may end the shell. -/
structure Classified where
  command : Command
  words : List String
  endsShell : Bool

/-- Find out what a command is. -/
def classify (words : List String) : Act Classified := do
  let state ← get
  match words with
  | [] => return ⟨.nothing, [], false⟩
  | name :: _ =>
    match Keyed.get? name state.functions, own? state.dialect name with
    | none, some command => return ⟨command, words, command.isSpecial && state.dialect = .plain⟩
    | some function, some command =>
      if command.isSpecial && state.dialect = .plain then return ⟨command, words, true⟩
      return ⟨.function function, words, false⟩
    | some function, none => return ⟨.function function, words, false⟩
    | none, none =>
      if name = "type" then
        return ⟨.builtin name fun _ arguments => describeAll true true arguments, words, false⟩
      if name ≠ "command" && !(name = "builtin" && state.dialect = .extended) then
        return ⟨.program, words, false⟩
      let rest := words.drop 1
      match rest with
      | "-v" :: names =>
        return ⟨.builtin name fun _ _ => describeAll false false names, words, false⟩
      | "-V" :: names =>
        return ⟨.builtin name fun _ _ => describeAll true false names, words, false⟩
      | _ =>
        let rest := if rest.head? = some "-p" then rest.drop 1 else rest
        let rest := if rest.head? = some "--" then rest.drop 1 else rest
        match rest with
        | [] => return ⟨.builtin name fun _ _ => return 0, words, false⟩
        | inner :: _ =>
          match own? state.dialect inner with
          | some command => return ⟨command, rest, false⟩
          | none => return ⟨.program, rest, false⟩

/-- Show a command that is done. -/
def trace (saved : List Redirecting.Saved) (texts : List String) : Act Unit := do
  let isPlain ← Act.isPlain
  let channel := ((saved.find? (·.channel = 2)).bind (·.kept)).getD 2
  let texts := if isPlain then texts else texts.map fun text =>
    if text ≠ "" && text.toList.all fun c => c.isAlphanum || "_-./:=@%+,^".toList.contains c then text
    else Builtin.quoted text
  let mark := (← Act.value? "PS4").getD "+ "
  Act.write channel (mark ++ " ".intercalate texts ++ "\n")

/-- The words of a command. Behind the name of a command that sets variables, settings are not
split. -/
def expandWords (others : Expansion.Others) : (declares : Bool) → List Word → Act (List String)
  | _, [] => return []
  | declares, word :: rest => do
    let isSetting := declares && (Grammar.target? .extended word).isSome
    let texts ← if isSetting then do pure [← Expansion.setting others word]
      else Expansion.texts others word
    let declares := declares || (match texts.head? with
      | some name => ["export", "readonly", "local", "declare", "typeset"].contains name
      | none => false)
    return texts ++ (← expandWords others declares rest)

/-- Do a command whose words, settings and redirections are known. -/
def perform (run : Run) (position : Position) (found : Classified) : Act Nat := do
  let name := found.words.headD ""
  let arguments := found.words.drop 1
  match found.command with
  | .nothing => return (← get).outputStatus
  | .special name builtin | .builtin name builtin =>
    withName name found.endsShell (builtin name arguments)
  | .function function => call run position function arguments
  | .program => runProgram position name arguments
  | .text => withName "eval" found.endsShell (runArguments run position arguments)
  | .source => withName name found.endsShell (runFile run arguments)
  | .replace =>
    match (if arguments.head? = some "--" then arguments.drop 1 else arguments) with
    | [] => return 0
    | program :: rest =>
      withName "exec" found.endsShell do
        match ← findProgram program with
        | .error errno =>
          let (message, status) ← startFailure program errno
          let message := if ← Act.isPlain then message else program ++ ": not found"
          Act.complain message
          throw (.exits (if status = 126 then 126 else 127))
        | .ok path => become path program rest

/-- A simple command. -/
def simple (run : Run) (position : Position) (line : Nat) (settings : List Setting)
    (words : List Word) (redirects : List Redirect) : Act Nat := do
  Act.ask .tick
  modify fun state => { state with line, outputStatus := 0 }
  let others := others run
  let words ← expandWords others false words
  let found ← classify words
  let isPlain ← Act.isPlain
  let targets ← Redirecting.targets others redirects
  let (saved, failure) ← Redirecting.all true [] targets
  match failure with
  | some message =>
    Act.complain message
    Redirecting.undo saved
    let status := if isPlain then 2 else 1
    if found.endsShell then throw (.fails status)
    return status
  | none =>
    let keepsSettings := match found.command with
      | .nothing => true
      | command => command.isSpecial && isPlain && found.endsShell
    let isReplacing := match found.command with
      | .replace => true
      | _ => false
    let body : Act Nat := do
      if !keepsSettings then
        modify fun state => { state with scopes := [] :: state.scopes }
      let result ← Act.attempt do
        let shown ← settings.mapM fun setting => do
          if !keepsSettings then
            Act.makeLocal (nameOf setting)
          let text ← set others setting
          if !keepsSettings || (isReplacing && 1 < words.length) then
            let name := nameOf setting
            match ← Act.named? name with
            | some held => Act.putVariable name { held with isExported := true }
            | none => pure ()
          return text
        if ← Act.has .showsCommands then
          let isShown := !(shown.isEmpty && words.isEmpty)
          if isShown then trace saved (shown ++ words)
        perform run position found
      if !keepsSettings then Act.leaveScope
      match result with
      | .ok status => return status
      | .error jump => throw jump
    let result ← Act.attempt body
    if isReplacing then Redirecting.settle saved else Redirecting.undo saved
    match result with
    | .ok status => return status
    | .error jump => throw jump

/-! ### Compound commands -/

/-- Do something with redirected channels. -/
def redirected (run : Run) (position : Position) (line : Nat) (body : Script)
    (redirects : List Redirect) : Act Nat := do
  modify fun state => { state with line }
  let targets ← Redirecting.targets (others run) redirects
  let (saved, failure) ← Redirecting.all true [] targets
  match failure with
  | some message =>
    Act.complain message
    Redirecting.undo saved
    return if ← Act.isPlain then 2 else 1
  | none =>
    let result ← Act.attempt (run { isTested := position.isTested } body)
    Redirecting.undo saved
    match result with
    | .ok status => return status
    | .error jump => throw jump

/-- Redirect channels for good. -/
def redirect (run : Run) (redirects : List Redirect) : Act Unit := do
  let targets ← Redirecting.targets (others run) redirects
  let (_, failure) ← Redirecting.all false [] targets
  match failure with
  | some message => Act.fail message
  | none => pure ()

/-- Run a script in a process of its own. -/
def subshell (run : Run) (position : Position) (line : Nat) (body : Script)
    (redirects : List Redirect) : Act Nat := do
  modify fun state => { state with line }
  let inner : Act Nat := do
    redirect run redirects
    run { isTested := position.isTested, isLast := true } body
  if position.isLast && (← get).traps.isEmpty then
    Jobs.becomeInner
    throw (.exits (← ended run inner))
  let pid ← forked run inner
  return (← Jobs.waitFor [pid]).headD 0

/-- Start the stages of a pipeline, each of which reads what the one before it writes. -/
def startStages (run : Run) (inBackground : Bool) (position : Position) :
    (source : Option Nat) → (isFirst : Bool) → List Script → Act (List Pid)
  | _, _, [] => return []
  | source, isFirst, stage :: rest => do
    let pipe ← if rest.isEmpty then pure none
      else do pure (some (← Act.ask .pipe))
    let pid ← forked run do
      if inBackground then Jobs.detach isFirst
      match source with
      | some number =>
        discard (Act.ask (.copy number 0))
        Act.ask (.close number)
      | none => pure ()
      match pipe with
      | some (out, into) => toPipe out into
      | none => pure ()
      run { isTested := position.isTested, isLast := true } stage
    match source with
    | some number => Act.ask (.close number)
    | none => pure ()
    match pipe with
    | some (_, into) => Act.ask (.close into)
    | none => pure ()
    return pid :: (← startStages run inBackground position (pipe.map (·.1)) false rest)

/-- Run the stages of a pipeline. -/
def pipeline (run : Run) (position : Position) (stages : List Script) : Act Nat := do
  let pids ← startStages run false position none true stages
  let statuses ← Jobs.waitFor pids
  modify fun state => { state with stages := statuses }
  if ← Act.has .failsInPipes then
    return ((statuses.reverse.find? (· ≠ 0)).getD 0)
  return statuses.getLastD 0

/-- Run a script without waiting for it. -/
def background (run : Run) (body : Script) : Act Nat := do
  match body with
  | .pipeline stages =>
    Jobs.add (← startStages run true {} none true stages)
  | body =>
    let pid ← forked run do
      Jobs.detach true
      match body with
      | .subshell _ body redirects =>
        redirect run redirects
        run { isLast := true } body
      | body => run { isLast := true } body
    Jobs.add [pid]
  return 0

/-- What becomes of a loop after one time: whether it goes on, and its status. -/
def behindBody (result : Except Jump Nat) (status : Nat) : Act (Bool × Nat) :=
  match result with
  | .ok status => return (true, status)
  | .error (.breaks n) => if n ≤ 1 then return (false, 0) else throw (.breaks (n - 1))
  | .error (.continues n) => if n ≤ 1 then return (true, 0) else throw (.continues (n - 1))
  | .error jump => do
    modify fun state => { state with status }
    throw jump

/-- Do something inside of one more loop. -/
def inLoop (body : Act Nat) : Act Nat := do
  let loops := (← get).loops
  modify fun state => { state with loops := loops + 1 }
  let result ← Act.attempt body
  modify fun state => { state with loops }
  match result with
  | .ok status => return status
  | .error jump => throw jump

/-- Repeat a body as long as a test says so. -/
def repeated (run : Run) (position : Position) (succeeding : Bool) (test body : Script) :
    Act Nat :=
  inLoop <| Act.loop 0 fun status => do
    match ← Act.attempt (run { isTested := true } test) with
    | .ok result =>
      if (result = 0) ≠ succeeding then return .inr status
      let result ← Act.attempt (run { isTested := position.isTested } body)
      let (goesOn, status) ← behindBody result status
      return if goesOn then .inl status else .inr status
    | result =>
      let (goesOn, status) ← behindBody result status
      return if goesOn then .inl status else .inr status

/-- Run a body once for each of some texts. -/
def each (run : Run) (position : Position) (name : String) (body : Script) :
    (status : Nat) → List String → Act Nat
  | status, [] => return status
  | status, text :: rest => do
    Act.setVariable name text
    let result ← Act.attempt (run { isTested := position.isTested } body)
    let (goesOn, status) ← behindBody result status
    if goesOn then each run position name body status rest else return status

/-- Whether one of some patterns fits a text. -/
def anyFits (others : Expansion.Others) (text : String) : List Word → Act Bool
  | [] => return false
  | word :: rest => do
    let pattern ← Expansion.pattern others word
    if Pattern.matchesAll (Pattern.ofMarks pattern) text.toList then return true
    anyFits others text rest

/-- Run the body of the first case whose patterns fit. -/
def choose (run : Run) (position : Position) (text : String) :
    (isOpen : Bool) → (status : Nat) → List Case → Act Nat
  | _, status, [] => return status
  | isOpen, status, .when patterns body ending :: rest => do
    if isOpen || (← anyFits (others run) text patterns) then
      let status ← match body with
        | .nothing => pure 0
        | body => run position body
      if ending = ";&" then choose run position text true status rest
      else if ending = ";;&" then choose run position text false status rest
      else return status
    else choose run position text false status rest

/-! ### Conditions -/

/-- Whether a condition holds. -/
def holds (others : Expansion.Others) : Condition → Act Bool
  | .word word => do return (← Expansion.whole others word) ≠ ""
  | .negation body => do return !(← holds others body)
  | .both first second => do
    if ← holds others first then holds others second else return false
  | .either first second => do
    if ← holds others first then return true
    holds others second
  | .unary operator word => do
    let text ← Expansion.whole others word
    match operator with
    | "-n" => return text ≠ ""
    | "-z" => return text = ""
    | "-v" => return (← Act.parameter? text).isSome
    | "-o" => return (← get).switches.any fun switch =>
        (Switch.ofName? .extended text) = some switch
    | "-a" => judged ["-e", text]
    | operator => judged [operator, text]
  | .binary operator first second => do
    let text ← Expansion.whole others first
    match operator with
    | "=" | "==" | "!=" =>
      let pattern ← Expansion.pattern others second
      let isFitting := Pattern.matchesAll (Pattern.ofMarks pattern) text.toList
      return isFitting = (operator ≠ "!=")
    | "<" => return text < (← Expansion.whole others second)
    | ">" => return (← Expansion.whole others second) < text
    | "-eq" | "-ne" | "-lt" | "-le" | "-gt" | "-ge" =>
      let a ← Arithmetic.evaluate text.toList
      let b ← Arithmetic.evaluate (← Expansion.whole others second).toList
      return match operator with
        | "-eq" => a == b
        | "-ne" => a != b
        | "-lt" => a < b
        | "-le" => a ≤ b
        | "-gt" => b < a
        | _ => b ≤ a
    | operator => judged [text, operator, ← Expansion.whole others second]
where
  /-- Whether a test holds. -/
  judged (words : List String) : Act Bool := do
    match ← Act.program (Utility.Test.holds .extendedShell "test" words) with
    | .ok holds => return holds
    | .error message => Act.fail message

/-! ### All constructs -/

/-- The value of an expression that is written out in a word; that of none is one. -/
def calculated (others : Expansion.Others) (word : Word) : Act Int := do
  let text ← Expansion.whole others word
  if text.toList.all Arithmetic.isBlank then return 1
  Arithmetic.evaluate text.toList

/-- A loop with expressions before the first time, before each time, and after each time. -/
def counted (run : Run) (position : Position) (start test next : Word) (body : Script) :
    Act Nat := do
  discard (calculated (others run) start)
  inLoop <| Act.loop 0 fun status => do
    if (← calculated (others run) test) = 0 then return .inr status
    let result ← Act.attempt (run { isTested := position.isTested } body)
    let (goesOn, status) ← behindBody result status
    if goesOn then
      discard (calculated (others run) next)
      return .inl status
    else return .inr status

/-- Whether a failure of a script ends the shell where it is told to end on failures. -/
def isChecked : Script → Bool
  | .simple .. | .subshell .. | .background _ | .pipeline _ | .redirected .. | .calculation ..
  | .condition .. => true
  | _ => false

/-- Do a script, given how the scripts inside of it are run. -/
def perform1 (run : Run) (position : Position) : Script → Act Nat
  | .nothing => return (← get).status
  | .simple line settings words redirects => simple run position line settings words redirects
  | .sequence first second => do
    discard (run { isTested := position.isTested } first)
    run position second
  | .both first second => do
    let status ← run { isTested := true } first
    if status = 0 then run position second else return status
  | .either first second => do
    let status ← run { isTested := true } first
    if status = 0 then return status else run position second
  | .negation body => do
    return if (← run { isTested := true } body) = 0 then 1 else 0
  | .pipeline stages => pipeline run position stages
  | .background body => background run body
  | .redirected line body redirects => redirected run position line body redirects
  | .subshell line body redirects => subshell run position line body redirects
  | .branch test yes no => do
    if (← run { isTested := true } test) = 0 then run position yes
    else match no with
      | some no => run position no
      | none => return 0
  | .loop succeeding test body => repeated run position succeeding test body
  | .each line name words body => do
    modify fun state => { state with line }
    let texts ← match words with
      | some words => do pure (← words.mapM (Expansion.texts (others run))).flatten
      | none => do pure (← get).arguments
    inLoop (each run position name body 0 texts)
  | .choice line subject cases => do
    modify fun state => { state with line }
    let text ← Expansion.whole (others run) subject
    choose run position text false 0 cases
  | .define line name body => do
    modify fun state => { state with functions := Keyed.put name ⟨line, body⟩ state.functions }
    return 0
  | .counted line start test next body => do
    modify fun state => { state with line }
    counted run position start test next body
  | .calculation line expression => do
    modify fun state => { state with line }
    match ← Act.attempt do
        Arithmetic.evaluate (← Expansion.whole (others run) expression).toList with
    | .ok n => return if n = 0 then 1 else 0
    | .error (.fails _) => return 1
    | .error jump => throw jump
  | .condition line condition => do
    modify fun state => { state with line }
    return if ← holds (others run) condition then 0 else 1

/-- Do a script: signals are handled first, and a failure that nobody looks at may end the
shell. -/
def step (run : Run) : Run := fun position script => do
  handleSignals run
  let status ← perform1 run position script
  modify fun state => { state with status }
  if isChecked script && status ≠ 0 && !position.isTested && (← Act.has .exitsOnFailure) then
    throw (.exits status)
  return status

/-- Run a script; `fuel` bounds how deep scripts are inside of one another. -/
def run : (fuel : Nat) → Run
  | 0, _, _ => Act.program Program.stuck
  | fuel + 1, position, script => step (run fuel) position script

end Interpreter

end TrackSelect.Shell
