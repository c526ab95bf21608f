import TrackSelect.Disk

/-!
# Taking things off a disk

Files and folders are removed and renamed by path; the names in a folder are those of the places
right inside it.
-/

namespace TrackSelect.Disk

/-- The place without what it holds. -/
def erase (place : Place) (disk : Disk) : Disk :=
  { disk with nodes := disk.nodes.filter (·.1 ≠ place) }

/-- The names in a folder. -/
def names (disk : Disk) (place : Place) : List String :=
  disk.nodes.filterMap fun (held, _) =>
    match held.getLast? with
    | some name => if held.dropLast = place then some name else none
    | none => none

/-- The place that a path leads to, and what it holds. -/
def find (disk : Disk) (path : String) : Except Fault (Place × Node) :=
  match disk.locate path with
  | .error fault => .error fault
  | .ok place =>
    match disk.node? place with
    | some node => .ok (place, node)
    | none => .error (.system .noEntry)

/-- Remove a file. -/
def removeFile (disk : Disk) (path : String) : Except Fault Disk :=
  match disk.find path with
  | .error fault => .error fault
  | .ok (_, .folder) => .error (.system .isDirectory)
  | .ok (place, _) => .ok (disk.erase place)

/-- Remove a folder in which nothing is left. -/
def removeFolder (disk : Disk) (path : String) : Except Fault Disk :=
  match disk.find path with
  | .error fault => .error fault
  | .ok (place, .folder) =>
    if disk.names place ≠ [] then .error (.system .notEmpty) else .ok (disk.erase place)
  | .ok _ => .error (.system .notDirectory)

/-- Give something another path; a file that was there is gone. -/
def rename (disk : Disk) (path target : String) : Except Fault Disk :=
  match disk.find path, disk.locate (withoutSlashes target) with
  | .error fault, _ | _, .error fault => .error fault
  | .ok (place, node), .ok goal =>
    if place = goal then .ok disk
    else if place.isPrefixOf goal then .error (.system .invalid)
    else match node, disk.node? goal with
      | .folder, some .folder =>
        if disk.names goal ≠ [] then .error (.system .notEmpty) else .ok (move place goal disk)
      | .folder, some _ => .error (.system .notDirectory)
      | _, some .folder => .error (.system .isDirectory)
      | _, _ => .ok (move place goal disk)
where
  /-- Put what is at or below a place at or below another one. -/
  move (place goal : Place) (disk : Disk) : Disk :=
    { disk with
      nodes := (disk.nodes.filter (·.1 ≠ goal)).map fun (held, node) =>
        match place.isPrefixOf? held with
        | some rest => (goal ++ rest, node)
        | none => (held, node) }

/-- Let a file be run as a program, or not. -/
def setExecutable (disk : Disk) (path : String) (executable : Bool) : Except Fault Disk :=
  match disk.find path with
  | .error fault => .error fault
  | .ok (place, .file content _) => .ok (disk.put place (.file content executable))
  | .ok _ => .ok disk

end TrackSelect.Disk
