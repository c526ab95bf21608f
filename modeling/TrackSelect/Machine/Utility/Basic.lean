import TrackSelect.Machine.System.Process
import TrackSelect.Text.Bytes
import TrackSelect.Text.Numeral

/-!
# Utilities

A utility is a small program. It is given the name by which it is called, its arguments and its
environment, and gives a status. All texts are byte texts. Here stands what many of them do: read
their options, complain, and read the files that they are given.
-/

namespace TrackSelect

open TrackSelect.System (Program)

/-- A small program. -/
abbrev Utility := (called : String) → (arguments : List String) →
  (environment : List (String × String)) → Program Nat

namespace Utility

/-! ### Texts -/

/-- Write a text, and say whether that was possible. -/
def write (channel : Nat) (cs : List Char) : Program Bool := do
  match ← Program.write channel (Text.Bytes.pack cs) with
  | .ok () => pure true
  | .error _ => pure false

def say (text : String) : Program Unit := do discard (write 1 text.toList)

def complain (message : String) : Program Unit := do discard (write 2 (message ++ "\n").toList)

/-- Complain, and give a status. -/
def refuse (status : Nat) (message : String) : Program Nat := do
  complain message
  pure status

/-- Put a text out as the last thing to do. -/
def finish (name : String) (cs : List Char) (status : Nat) : Program Nat := do
  if cs = [] then return status
  match ← Program.write 1 (Text.Bytes.pack cs) with
  | .ok () => pure status
  | .error errno => refuse 1 (name ++ ": write error: " ++ errno.text)

/-- The hint behind a complaint about arguments. -/
def hint (name : String) : String := "\nTry '" ++ name ++ " --help' for more information."

/-- The complaint that something cannot be done with a path. -/
def failure (name doing path : String) (errno : Errno) : String :=
  name ++ ": " ++ doing ++ " '" ++ path ++ "': " ++ errno.text

/-! ### Options -/

/-- An option that has been found, with its argument. -/
structure Found where
  letter : Char
  value : String := ""
deriving DecidableEq, Repr

/-- Why options cannot be read. -/
inductive Misuse where
  | unknown (letter : Char)
  | unknownName (name : String)
  | lacksValue (letter : Char)

/-- How a misuse is told of. -/
def Misuse.message (name : String) : Misuse → String
  | unknown letter => name ++ ": invalid option -- '" ++ String.singleton letter ++ "'" ++ hint name
  | unknownName text => name ++ ": unrecognized option '" ++ text ++ "'" ++ hint name
  | lacksValue letter =>
    name ++ ": option requires an argument -- '" ++ String.singleton letter ++ "'" ++ hint name

/-- The options of a utility: letters without and with an argument, and names for letters. -/
structure Known where
  plain : String := ""
  valued : String := ""
  names : List (String × Char) := []

/-- The letters of one argument behind its sign; an argument of the last letter may follow. -/
def letters (known : Known) : List Char → List String →
    Except Misuse (List Found × List String)
  | [], rest => .ok ([], rest)
  | letter :: more, rest =>
    if known.plain.toList.contains letter then
      (letters known more rest).map fun (found, rest) => ({ letter } :: found, rest)
    else if known.valued.toList.contains letter then
      match more, rest with
      | [], value :: rest => .ok ([⟨letter, value⟩], rest)
      | [], [] => .error (.lacksValue letter)
      | more, rest => .ok ([⟨letter, String.ofList more⟩], rest)
    else .error (.unknown letter)

/-- The options among some arguments, and the other ones. Options may stand behind other arguments
if `anywhere`; `fuel` bounds the number of arguments. -/
def optionsFrom (known : Known) (anywhere : Bool) : (fuel : Nat) → List String →
    Except Misuse (List Found × List String)
  | 0, arguments => .ok ([], arguments)
  | _, [] => .ok ([], [])
  | fuel + 1, argument :: rest =>
    match argument.toList with
    | ['-'] => plain fuel argument rest
    | ['-', '-'] => .ok ([], rest)
    | '-' :: '-' :: name =>
      let text := String.ofList (name.takeWhile (· ≠ '='))
      let value? := if text.length < name.length then
        some (String.ofList (name.drop (text.length + 1))) else none
      match known.names.find? fun entry => entry.1 = text with
      | none => .error (.unknownName argument)
      | some (_, letter) =>
        if known.valued.toList.contains letter then
          match value?, rest with
          | some value, rest => more fuel ⟨letter, value⟩ rest
          | none, value :: rest => more fuel ⟨letter, value⟩ rest
          | none, [] => .error (.lacksValue letter)
        else more fuel { letter, value := value?.getD "" } rest
    | '-' :: cs =>
      match letters known cs rest with
      | .error misuse => .error misuse
      | .ok (found, rest) =>
        (optionsFrom known anywhere fuel rest).map fun (others, rest) => (found ++ others, rest)
    | _ => plain fuel argument rest
where
  plain (fuel : Nat) (argument : String) (rest : List String) :
      Except Misuse (List Found × List String) :=
    if anywhere then
      (optionsFrom known anywhere fuel rest).map fun (found, rest) => (found, argument :: rest)
    else .ok ([], argument :: rest)
  more (fuel : Nat) (found : Found) (rest : List String) :
      Except Misuse (List Found × List String) :=
    (optionsFrom known anywhere fuel rest).map fun (others, rest) => (found :: others, rest)

/-- Do something with the options and the other arguments of a utility. -/
def withOptions (name : String) (known : Known) (arguments : List String) (misused : Nat)
    (body : List Found → List String → Program Nat) : Program Nat :=
  match optionsFrom known true (arguments.length + 1) arguments with
  | .error misuse => refuse misused (misuse.message name)
  | .ok (found, rest) => body found rest

def has (found : List Found) (letter : Char) : Bool := found.any (·.letter = letter)

/-- The argument of the last option with a letter. -/
def value? (found : List Found) (letter : Char) : Option String :=
  (found.reverse.find? (·.letter = letter)).map (·.value)

/-! ### Numbers -/

/-- A number with a unit behind it. -/
def quantity? (text : String) : Option Nat :=
  let cs := text.toList
  let ds := cs.takeWhile Char.isDigit
  let unit? : Option Nat := match String.ofList (cs.drop ds.length) with
    | "" => some 1
    | "b" => some 512
    | "k" | "K" | "KiB" => some 1024
    | "kB" | "KB" => some 1000
    | "M" | "MiB" => some 1048576
    | "MB" => some 1000000
    | "G" | "GiB" => some 1073741824
    | "GB" => some 1000000000
    | _ => none
  match Text.natural? ds, unit? with
  | some n, some unit => some (n * unit)
  | _, _ => none

/-- A whole number after a sign or none. -/
def integer? (text : String) : Option Int :=
  match text.toList with
  | '-' :: ds => (Text.natural? ds).map fun n => -(n : Int)
  | '+' :: ds => (Text.natural? ds).map Int.ofNat
  | ds => (Text.natural? ds).map Int.ofNat

/-! ### Files -/

/-- The descriptor of a file that is read; a dash stands for the input. -/
def openInput (name path : String) : Program (Option Nat) := do
  if path = "-" then return some 0
  match ← Program.ask (.open path .input) with
  | .ok number => return some number
  | .error errno =>
    complain (name ++ ": " ++ path ++ ": " ++ errno.text)
    return none

/-- Close the descriptor of a file that has been read. -/
def closeInput (number : Nat) : Program Unit := do
  if number ≠ 0 then Program.ask (.close number)

/-- The content of a file, or a complaint. -/
def content (name path : String) : Program (Option ByteArray) := do
  match ← openInput name path with
  | none => return none
  | some number =>
    let result ← Program.readAll number
    closeInput number
    match result with
    | .ok bytes => return some bytes
    | .error errno =>
      complain (name ++ ": " ++ path ++ ": " ++ errno.text)
      return none

/-- The contents of files, or of the input if there are none, one behind the other, and whether
all of them could be read. -/
def contents (name : String) (paths : List String) : Program (List Char × Bool) := do
  let paths := if paths.isEmpty then ["-"] else paths
  let parts ← paths.mapM (content name)
  let chars := parts.map fun part => (part.map Text.Bytes.unpack).getD []
  return (chars.flatten, parts.all (·.isSome))

/-- The lines of a text; a last line without an end counts too. -/
def lines (cs : List Char) : List (List Char) :=
  let parts := cs.splitOn '\n'
  if parts.getLast? = some [] then parts.dropLast else parts

/-- Lines with their ends. -/
def unlines (lines : List (List Char)) : List Char := lines.flatMap fun line => line ++ ['\n']

end Utility

end TrackSelect
