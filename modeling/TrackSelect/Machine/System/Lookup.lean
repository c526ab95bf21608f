import TrackSelect.Disk
import TrackSelect.Text.Bytes

/-!
# Finding programs

A program is called by a path, or by a name that is looked up in the folders for programs. A file
of the disk can be a program if it names in its first line the one that runs it.
-/

namespace TrackSelect.System

/-- What a call runs: a program of the system, with the arguments that come before those of the
call, as byte texts. -/
structure Called where
  name : String
  arguments : List String
deriving DecidableEq, Repr

namespace Called

/-- The path and the argument in the first line of a file that a program is to run. -/
def interpreter? (content : List UInt8) : Option (String × List String) :=
  match (content.takeWhile (· != 10)).map Text.Bytes.ofByte with
  | '#' :: '!' :: line =>
    let isSpace (c : Char) : Bool := c = ' ' || c = '\t'
    let line := line.dropWhile isSpace
    let path := line.takeWhile (!isSpace ·)
    let rest := (line.dropWhile (!isSpace ·)).dropWhile isSpace
    let rest := (rest.reverse.dropWhile isSpace).reverse
    if path = [] then none
    else some (String.ofList path, if rest = [] then [] else [String.ofList rest])
  | _ => none

/-- The program at a path; `fuel` bounds how many files run each other. -/
def atPath (fuel : Nat) (disk : Disk) (path : String) : Except Fault Called :=
  match disk.locate path with
  | .error fault => .error fault
  | .ok place =>
    match disk.node? place with
    | none => .error (.system .noEntry)
    | some (.program name) => .ok ⟨name, []⟩
    | some (.file content true) =>
      match fuel, interpreter? content with
      | fuel + 1, some (interpreter, arguments) =>
        (atPath fuel disk (Text.Bytes.toText interpreter)).map fun called =>
          { called with
            arguments := called.arguments ++ arguments ++ [Text.Bytes.ofText path] }
      | _, _ => .error (.system .notExecutable)
    | some _ => .error (.system .noPermission)

/-- The first of some paths that leads to a program. If none does, a path that leads to something
else decides on the failure. -/
def firstOf (disk : Disk) (refused : Bool) : List String → Except Fault Called
  | [] => .error (.system (if refused then .noPermission else .noEntry))
  | path :: rest =>
    match atPath 4 disk path with
    | .ok called => .ok called
    | .error fault => firstOf disk (refused || fault = .system .noPermission) rest

/-- The program of a call. -/
def find (disk : Disk) (name : String) : Except Fault Called :=
  if name.toList.contains '\x00' then .error .unusablePath
  else if name = "" then .error (.system .noEntry)
  else if name.toList.contains '/' then atPath 4 disk name
  else if Disk.longestName < name.utf8ByteSize then .error (.system .nameTooLong)
  else firstOf disk false (Disk.programFolders.map (· ++ "/" ++ name))

end Called

end TrackSelect.System
