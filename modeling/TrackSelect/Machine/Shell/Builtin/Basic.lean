import TrackSelect.Machine.Shell.Jobs

/-!
# Commands of the shell itself

A command of the shell itself changes the state of the shell, or is done by it because that is
faster. It is given its name and its arguments and gives a status.
-/

namespace TrackSelect.Shell

/-- A command of the shell itself. -/
abbrev Builtin := (name : String) → (arguments : List String) → Act Nat

namespace Builtin

/-- Put a text out; a command that cannot fails. -/
def put (name text : String) : Act Nat := do
  if text = "" then return 0
  match ← Act.program (System.Program.write 1 (Text.Bytes.packString text)) with
  | .ok () => return 0
  | .error errno =>
    if ← Act.isPlain then Act.complain (name ++ ": I/O error")
    else Act.complain ("write error: " ++ errno.text)
    return 1

/-- Complain, and give a status. -/
def refuse (status : Nat) (message : String) : Act Nat := do
  Act.complain message
  return status

/-- The number that an argument stands for. -/
def number (text : String) : Act Nat := do
  match Text.natural? text.toList with
  | some n => return n
  | none =>
    if ← Act.isPlain then Act.fail ("Illegal number: " ++ text)
    else Act.fail (text ++ ": numeric argument required")

/-- The letters of the options in front of some arguments, and the arguments behind them. -/
def options (known : List Char) : (found : List Char) → List String →
    Act (List Char × List String)
  | found, [] => return (found, [])
  | found, argument :: rest => do
    match argument.toList with
    | ['-'] => return (found, argument :: rest)
    | ['-', '-'] => return (found, rest)
    | '-' :: letters =>
      match letters.find? fun letter => !known.contains letter with
      | some letter =>
        if ← Act.isPlain then Act.fail ("Illegal option -" ++ String.singleton letter)
        else
          Act.complain ("-" ++ String.singleton letter ++ ": invalid option")
          throw (.fails 2)
      | none => options known (found ++ letters) rest
    | _ => return (found, argument :: rest)

/-- A name and the value behind an equals sign, if there is one. -/
def splitSetting (argument : String) : String × Option String :=
  let cs := argument.toList
  let name := cs.takeWhile (· ≠ '=')
  (String.ofList name, if name.length < cs.length then
    some (String.ofList (cs.drop (name.length + 1))) else none)

/-- A text in quotes that a shell reads back as it is. -/
def quoted (text : String) : String :=
  let parts := (text.splitOn "'").map fun part => "'" ++ part ++ "'"
  "\"'\"".intercalate parts

/-- The name and number of a signal. -/
def signal? (text : String) : Option Nat :=
  match Text.natural? text.toList with
  | some n => if n ≤ 64 then some n else none
  | none =>
    let name := text.toUpper
    if name = "EXIT" then some 0
    else (Ending.signalNames.idxOf? name).map (· + 1)

def signalName (number : Nat) : String :=
  if number = 0 then "EXIT" else (Ending.signalName? number).getD (toString number)

end Builtin

end TrackSelect.Shell
