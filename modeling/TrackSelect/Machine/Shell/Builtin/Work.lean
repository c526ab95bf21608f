import TrackSelect.Machine.Shell.Builtin.Basic
import TrackSelect.Machine.Utility.Printf
import TrackSelect.Machine.Utility.Test

/-!
# Commands for texts, folders, processes and signals
-/

namespace TrackSelect.Shell.Builtin

open TrackSelect.Utility (Manner)

/-- The manner in which a shell does the work of utilities. -/
def manner : Act Manner := do
  return if ← Act.isPlain then .plainShell else .extendedShell

def echo : Builtin := fun name arguments => do
  put name (String.ofList (Utility.Echo.text (← manner) arguments))

/-- Put out arguments by a format, or set a variable to what would be put out. -/
def printf : Builtin := fun name arguments => do
  let manner ← manner
  let (target, arguments) := match manner, arguments with
    | .extendedShell, "-v" :: target :: rest => (some target, rest)
    | _, arguments => (none, arguments)
  let printed := Utility.Printf.run manner arguments
  for complaint in printed.complaints do Act.complain complaint
  let text := String.ofList printed.out.reverse
  match target with
  | some target =>
    Act.setVariable target text
    return printed.status
  | none => return max printed.status (← put name text)

def test : Builtin := fun name arguments => do
  match ← Act.program (Utility.Test.holds (← manner) name arguments) with
  | .ok holds => return if holds then 0 else 1
  | .error message => refuse 2 message

/-! ### Folders -/

/-- Go to another folder. -/
def enter : Builtin := fun _ arguments => do
  let (_, arguments) ← options ['L', 'P', 'e'] [] arguments
  let isPlain ← Act.isPlain
  let isBack := arguments.head? = some "-"
  let goal? ← match arguments with
    | [] => Act.value? "HOME"
    | goal :: _ => if isBack then Act.value? "OLDPWD" else pure (some goal)
  match goal? with
  | none =>
    if isPlain then return 0
    refuse 1 (if isBack then "OLDPWD not set" else "HOME not set")
  | some goal =>
    let before ← Act.ask .place
    match ← Act.ask (.enter (if goal = "" then "." else goal)) with
    | .ok () =>
      Act.setVariable "OLDPWD" before
      let after ← Act.ask .place
      Act.setVariable "PWD" after
      if isBack then put "cd" (after ++ "\n") else return 0
    | .error errno =>
      if isPlain then refuse 2 ("can't cd to " ++ goal)
      else refuse 1 (goal ++ ": " ++ errno.text)

def place : Builtin := fun name _ => do put name ((← Act.ask .place) ++ "\n")

/-- The bits of a mask in octal digits. -/
def octal (n : Nat) : String := String.ofList ((Nat.toDigits 8 n).leftpad 4 '0')

/-- Show or change which rights new files do not have. -/
def umask : Builtin := fun name arguments => do
  let mask := (← get).mask
  match arguments with
  | [] => put name (octal mask ++ "\n")
  | ["-S"] =>
    let rights (bits : Nat) : String :=
      (if bits / 4 % 2 = 0 then "r" else "") ++ (if bits / 2 % 2 = 0 then "w" else "") ++
        (if bits % 2 = 0 then "x" else "")
    put name ("u=" ++ rights (mask / 64) ++ ",g=" ++ rights (mask / 8) ++ ",o=" ++ rights mask ++ "\n")
  | text :: _ =>
    match Text.inBase? 8 text.toList with
    | some n =>
      modify fun state => { state with mask := n % 512 }
      return 0
    | none =>
      if text.toList.any Char.isDigit then Act.fail ("Illegal number: " ++ text) else return 0

/-! ### Processes and signals -/

/-- Wait for processes of the background. -/
def wait : Builtin := fun _ arguments => do
  let interrupted : Act Nat := do
    return 128 + ((← get).traps.findSome? fun entry => if entry.1 = 0 then none else some entry.1).getD 0
  let (_, arguments) ← options ['n', 'f', 'p'] [] arguments
  if arguments.isEmpty then
    let all := (← get).works.flatMap (·.pids)
    if ← Jobs.waitInBackground false all then
      modify fun state => { state with works := [] }
      return 0
    else interrupted
  else
    let mut status := 0
    for argument in arguments do
      let works := (← get).works
      let work? ← match argument.toList with
        | '%' :: cs => pure (works[(Text.natural? cs).getD works.length - 1]?)
        | _ => do
          let pid ← number argument
          pure (works.find? fun work => work.pid = pid)
      match work? with
      | none =>
        if !(← Act.isPlain) then
          Act.complain ("pid " ++ argument ++ " is not a child of this shell")
        status := 127
      | some work =>
        if ← Jobs.waitInBackground true work.pids then
          status := (((← get).works.find? (·.pid = work.pid)).bind (·.status)).getD 0
        else status ← interrupted
    return status

/-- Send a signal to processes. -/
def kill : Builtin := fun _ arguments => do
  let isPlain ← Act.isPlain
  let usage : Act Nat := do
    if isPlain then
      Act.fail "Usage: kill [-s sigspec | -signum | -sigspec] [pid | job]... or\nkill -l [exitstatus]"
    Act.write 2
      ("kill: usage: kill [-s sigspec | -n signum | -sigspec] pid | jobspec ... or kill -l [sigspec]\n")
    return 2
  let signalOf (text : String) : Option Nat :=
    match signal? text with
    | some n => some n
    | none => if isPlain then none
      else if text.toUpper.startsWith "SIG" then signal? (String.ofList (text.toList.drop 3)) else none
  let send (signal : Nat) (targets : List String) : Act Nat := do
    if targets.isEmpty then return ← usage
    let mut status := 0
    for target in targets do
      let pid? : Option Int := match target.toList with
        | '-' :: ds => (Text.natural? ds).map fun n => -(n : Int)
        | ds => (Text.natural? ds).map Int.ofNat
      let job? ← match target.toList with
        | '%' :: cs => do
          let works := (← get).works
          pure (works[(Text.natural? cs).getD works.length - 1]?)
        | _ => pure none
      match pid?, job? with
      | none, none =>
        if isPlain then Act.fail ("Illegal number: " ++ target)
        Act.complain (target ++ ": arguments must be process or job IDs")
        status := 1
      | pid?, job? =>
        let pid : Int := pid?.getD ((job?.map fun work => (work.pid : Int)).getD 0)
        match ← Act.ask (.signal pid signal) with
        | .ok () => pure ()
        | .error errno =>
          if isPlain then Act.complain (errno.text ++ "\n")
          else Act.complain ("(" ++ target ++ ") - " ++ errno.text)
          status := 1
    return status
  match arguments with
  | [] => usage
  | first :: rest =>
    match first.toList with
    | ['-', '-'] => send 15 rest
    | ['-', 'l'] | ['-', 'L'] =>
      match rest with
      | [] =>
        let names := (List.range 32).map fun n => if n = 0 then "0" else signalName n
        put "kill" (String.join (names.map fun name => name ++ "\n"))
      | text :: _ =>
        let n ← number text
        put "kill" (signalName (if 128 < n then n - 128 else n) ++ "\n")
    | ['-', 's'] | ['-', 'n'] =>
      match rest with
      | name :: targets =>
        match signalOf name with
        | some n => send n (if targets.head? = some "--" then targets.drop 1 else targets)
        | none =>
          if isPlain then Act.fail ("invalid signal number or name: " ++ name)
          refuse 1 (name ++ ": invalid signal specification")
      | [] => usage
    | '-' :: name =>
      match signalOf (String.ofList name) with
      | some n => send n (if rest.head? = some "--" then rest.drop 1 else rest)
      | none =>
        if isPlain then Act.fail ("Illegal option -" ++ String.ofList (name.take 1))
        refuse 1 (String.ofList name ++ ": invalid signal specification")
    | _ => send 15 arguments

/-- Say what is done when signals are caught, or list it. -/
def trap : Builtin := fun name arguments => do
  let arguments := if arguments.head? = some "--" then arguments.drop 1 else arguments
  let isPlain ← Act.isPlain
  let signalOf (text : String) : Option Nat :=
    match signal? text with
    | some n => some n
    | none => if isPlain then none
      else if text.toUpper.startsWith "SIG" then signal? (String.ofList (text.toList.drop 3))
      else none
  match arguments with
  | [] | ["-p"] =>
    let traps := (← get).traps.mergeSort fun a b => a.1 ≤ b.1
    put name (String.join (traps.map fun (number, text) =>
      "trap -- " ++ quoted text ++ " " ++
        (if isPlain || number = 0 then "" else "SIG") ++ signalName number ++ "\n"))
  | first :: rest =>
    let isReset := rest.isEmpty || (Text.natural? first.toList).isSome
    let action := if isReset || first = "-" then none else some first
    let mut status := 0
    for target in (if isReset then arguments else rest) do
      match signalOf target with
      | none =>
        if isPlain then Act.write 2 ("trap: " ++ target ++ ": bad trap\n")
        else Act.complain (target ++ ": invalid signal specification")
        status := 1
      | some number =>
        modify fun state =>
          let others := state.traps.filter (·.1 ≠ number)
          { state with traps := match action with
              | some text => others ++ [(number, text)]
              | none => others }
        if number ≠ 0 then
          Act.ask (.react number (match action with
            | none => .usual
            | some "" => .ignored
            | some _ => .caught))
    return status

/-- The jobs in the background. -/
def jobs : Builtin := fun _ _ => return 0

def times : Builtin := fun name _ => do
  let line := if ← Act.isPlain then "0m0.000000s 0m0.000000s\n" else "0m0.000s 0m0.000s\n"
  put name (line ++ line)

def limit : Builtin := fun name arguments => do
  if arguments.all fun argument => argument.toList.head? = some '-' then put name "unlimited\n"
  else return 0

end TrackSelect.Shell.Builtin
