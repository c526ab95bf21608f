import TrackSelect.Errno
import TrackSelect.Fault
import TrackSelect.Path

/-!
# Disks

A disk holds folders and files by their place, which is the list of names from the root. One place
is the working folder, where relative paths start. Paths are looked up name by name: every name
but the last must lead to a folder. The operations fail the way Linux has them fail.

`read?` is the view of a disk: what a file holds. Writing changes it at one place only
(`read?_put`).
-/

namespace TrackSelect

/-- Names from the root. -/
abbrev Place := List String

/-- A file without contents of its own. -/
inductive Device where
  /-- Empty when read; swallows what is written. -/
  | null
  /-- Endless zero bytes. -/
  | zero
  /-- Endless zero bytes when read; has no space for what is written. -/
  | full
deriving DecidableEq, Repr

/-- What a place holds. -/
inductive Node where
  | folder
  | file (content : List UInt8) (executable : Bool)
  | device (device : Device)
  /-- A program of the system, known by its name. -/
  | program (name : String)
deriving DecidableEq, Repr

/-- Folders and files by place. Of two entries for a place the first counts. -/
structure Disk where
  working : Place
  nodes : List (Place × Node)
deriving Repr

namespace Disk

/-- What a place holds. The root is a folder. -/
def node? (disk : Disk) (place : Place) : Option Node :=
  if place = [] then some .folder else disk.nodes.lookup place

/-- The content of a file. -/
def read? (disk : Disk) (place : Place) : Option (List UInt8) :=
  match disk.node? place with
  | some (.file content _) => some content
  | _ => none

/-- Put something at a place. -/
def put (place : Place) (node : Node) (disk : Disk) : Disk :=
  { disk with nodes := (place, node) :: disk.nodes.filter (·.1 ≠ place) }

/-- What the first of some entries makes of a place. -/
theorem lookup_cons_ite (other held : Place) (node : Node) (rest : List (Place × Node)) :
    ((held, node) :: rest).lookup other =
      if other = held then some node else rest.lookup other := by
  have h : ((held, node) :: rest).lookup other =
      match other == held with
      | true => some node
      | false => rest.lookup other := rfl
  rw [h]
  by_cases ho : other = held
  · simp [ho]
  · have hb : (other == held) = false := by simp [ho]
    simp [ho, hb]

/-- Entries for another place do not matter. -/
theorem lookup_filter_ne {place other : Place} (h : other ≠ place) (nodes : List (Place × Node)) :
    (nodes.filter (·.1 ≠ place)).lookup other = nodes.lookup other := by
  induction nodes with
  | nil => rfl
  | cons entry rest ih =>
    obtain ⟨held, node⟩ := entry
    by_cases hp : held = place
    · subst hp
      simpa [lookup_cons_ite, h] using ih
    · simpa [lookup_cons_ite, hp] using congrArg (if other = held then some node else ·) ih

@[simp] theorem node?_put {place other : Place} {node : Node} {disk : Disk} (hp : place ≠ []) :
    (disk.put place node).node? other = if other = place then some node else disk.node? other := by
  by_cases h : other = place
  · subst h
    simp [node?, put, hp]
  · by_cases hr : other = []
    · subst hr
      simp [node?, h]
    · simp only [node?, put, hr, if_false, h, lookup_cons_ite]
      exact lookup_filter_ne h disk.nodes

/-- The programs of the system. -/
def programs : List String :=
  ["sh", "dash", "bash", "true", "false", "cat", "head", "tail", "wc", "tr", "yes", "sleep",
    "tee", "echo", "printf", "test", "[", "env", "mkdir", "rmdir", "rm", "touch", "cp", "mv",
    "ls", "chmod", "mktemp", "truncate", "cmp", "pwd", "realpath", "readlink", "dd", "basename",
    "dirname", "sort", "uniq", "cut", "paste", "tac", "rev", "nl", "seq", "xargs", "nohup",
    "nice", "timeout", "kill", "date", "whoami", "uname", "sync"]

/-- The folders that a program is looked for in when it is called by its name only. -/
def programFolders : List String := ["/usr/bin", "/bin"]

/-- A disk with nothing in its working folder. Of the rest of the system it has the usual folders,
the devices and the programs. -/
def fresh : Disk where
  working := ["srv", "media"]
  nodes :=
    [(["dev", "null"], .device .null), (["dev", "zero"], .device .zero),
      (["dev", "full"], .device .full)]
      ++ [["srv", "media"], ["srv"], ["dev"], ["bin"], ["etc"], ["home"], ["mnt"], ["root"],
        ["tmp"], ["usr"], ["usr", "bin"], ["var"], ["var", "tmp"]].map (fun place => (place, .folder))
      ++ programs.flatMap fun name =>
        [(["usr", "bin", name], .program name), (["bin", name], .program name)]

/-! ### Looking up paths -/

/-- The longest name, in bytes. -/
def longestName : Nat := 255

/-- The longest path, in bytes. -/
def longestPath : Nat := 4095

/-- Go from a folder along some parts to the place of the last of them, which need not hold
anything. -/
def walk (disk : Disk) (place : Place) : List String → Except Errno Place
  | [] => .ok place
  | part :: rest =>
    if part = "." then walk disk place rest
    else if part = ".." then walk disk place.dropLast rest
    else if longestName < part.utf8ByteSize then .error .nameTooLong
    else
      let next := place ++ [part]
      if rest = [] then .ok next
      else match disk.node? next with
        | some .folder => walk disk next rest
        | some _ => .error .notDirectory
        | none => .error .noEntry

/-- The place a path leads to. A path that ends in a slash goes on into the folder it names. -/
def locate (disk : Disk) (path : String) : Except Fault Place :=
  let cs := path.toList
  if cs.contains '\x00' then .error .unusablePath
  else if longestPath < path.utf8ByteSize then .error (.system .nameTooLong)
  else if cs = [] then .error (.system .noEntry)
  else
    let parts := (cs.splitOn '/').filter (· ≠ [])
    let inside := if cs.getLast? = some '/' then ["."] else []
    match disk.walk (if Path.isAbsolute cs then [] else disk.working)
        (parts.map String.ofList ++ inside) with
    | .ok place => .ok place
    | .error errno => .error (.system errno)

/-- Whether a path leads to a folder. -/
def isFolder (disk : Disk) (path : String) : Bool :=
  match disk.locate path with
  | .ok place => disk.node? place = some .folder
  | .error _ => false

/-- Whether a path leads to anything. -/
def isThere (disk : Disk) (path : String) : Bool :=
  match disk.locate path with
  | .ok place => (disk.node? place).isSome
  | .error _ => false

/-! ### Files and folders -/

/-- The bytes of the file a path leads to. -/
def load (disk : Disk) (path : String) : Except Fault (List UInt8) :=
  match disk.locate path with
  | .error fault => .error fault
  | .ok place =>
    match disk.node? place with
    | some (.file content _) => .ok content
    | some .folder => .error (.system .isDirectory)
    | some (.device _) | some (.program _) => .ok []
    | none => .error (.system .noEntry)

/-- Write a file: a new one, or new content for one that is there. -/
def store (disk : Disk) (path : String) (content : List UInt8) : Except Fault Disk :=
  match disk.locate path with
  | .error fault => .error fault
  | .ok place =>
    match disk.node? place with
    | none => .ok (disk.put place (.file content false))
    | some (.file _ executable) => .ok (disk.put place (.file content executable))
    | some .folder => .error (.system .isDirectory)
    | some (.device _) => .ok disk
    | some (.program _) => .error (.system .noPermission)

/-- Write behind what a file holds. -/
def extend (disk : Disk) (path : String) (content : List UInt8) : Except Fault Disk :=
  match disk.locate path with
  | .error fault => .error fault
  | .ok place => disk.store path ((disk.read? place).getD [] ++ content)

/-- A path without the slashes at its end. -/
def withoutSlashes (path : String) : String :=
  match (path.toList.reverse.dropWhile (· == '/')).reverse with
  | [] => path
  | cs => String.ofList cs

/-- Make one folder, in a folder that is there. -/
def makeFolder (disk : Disk) (path : String) : Except Fault Disk :=
  match disk.locate (withoutSlashes path) with
  | .error fault => .error fault
  | .ok place =>
    match disk.node? place with
    | none => .ok (disk.put place .folder)
    | some _ => .error (.system .alreadyThere)

/-- Make a folder unless it is there, after the folders above it; `fuel` bounds their number. -/
def makeFoldersFrom (fuel : Nat) (disk : Disk) (path : String) : Except Fault Disk :=
  if path = "" then .ok disk else
  match disk.makeFolder path with
  | .ok disk => .ok disk
  | .error (.system errno) =>
    if errno = .noEntry then
      match fuel, Path.parent? path with
      | fuel + 1, some parent =>
        match makeFoldersFrom fuel disk parent with
        | .error fault => .error fault
        | .ok disk =>
          match disk.makeFolder path with
          | .ok disk => .ok disk
          | .error fault => if disk.isFolder path then .ok disk else .error fault
      | _, _ => .error (.system errno)
    else if disk.isFolder path then .ok disk
    else .error (.system errno)
  | .error fault => .error fault

/-- Make a folder and the folders above it, as far as they are not there. -/
def makeFolders (disk : Disk) (path : String) : Except Fault Disk :=
  makeFoldersFrom path.length disk path

/-- Whether a file starts with the mark of a script. -/
def isScript : List UInt8 → Bool
  | hash :: bang :: _ => hash = 0x23 && bang = 0x21
  | _ => false

/-- Put a file on a disk, whatever was at its path, with the folders above it. A script can be
executed. -/
def supply (disk : Disk) (path : String) (content : List UInt8) : Disk :=
  let disk := (disk.makeFolders ((Path.parent? path).getD "")).toOption.getD disk
  match disk.locate path with
  | .ok place => disk.put place (.file content (isScript content))
  | .error _ => disk

/-- The paths and contents of the files below the working folder. -/
def files (disk : Disk) : List (String × List UInt8) :=
  disk.nodes.filterMap fun (place, node) =>
    match disk.working.isPrefixOf? place, node with
    | some names, .file content _ => some ("/".intercalate names, content)
    | _, _ => none

end Disk

end TrackSelect
