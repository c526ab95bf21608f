import TrackSelect.Text.Numeral

/-!
# Paths

Paths are texts with parts between slashes. Empty parts and parts that are a single point stand
for nothing, except that a point at the very start of a relative path is a part of its own. What
the last part is decides the name, the stem and the parent of a path.
-/

namespace TrackSelect.Path

/-- A path that starts at the root. -/
def isAbsolute (path : List Char) : Bool := path.head? = some '/'

/-- A part that stands for nothing. -/
def isIdle (part : List Char) : Bool := part = [] || part = ['.']

/-- Parts without the idle ones at the end. The first part of a relative path is not idle when it
is a point. -/
def withoutIdleEnd (absolute : Bool) : List (List Char) → List (List Char)
  | [] => []
  | first :: rest =>
    match (rest.reverse.dropWhile isIdle).reverse with
    | [] => if first = [] || (absolute && isIdle first) then [] else [first]
    | rest => first :: rest

/-- The parts of a path behind the slash at its start, up to the last one that is not idle. -/
def parts (path : List Char) : List (List Char) :=
  withoutIdleEnd (isAbsolute path) ((if isAbsolute path then path.drop 1 else path).splitOn '/')

/-- The name of what a path leads to: the last part, unless that leads upward or nowhere. -/
def name? (path : String) : Option (List Char) :=
  match (parts path.toList).getLast? with
  | some ['.'] | some ['.', '.'] | none => none
  | some name => some name

/-- A name without its extension: up to the last point, unless nothing is in front of that. -/
def withoutExtension (name : List Char) : List Char :=
  match name.reverse.dropWhile (· ≠ '.') with
  | _ :: before@(_ :: _) => before.reverse
  | _ => name

/-- The name of a path without extension, `output` for a path without a name. -/
def stem (path : String) : String :=
  match name? path with
  | some name => String.ofList (withoutExtension name)
  | none => "output"

/-- The path without its last part; the root and the empty path have no parent. -/
def parent? (path : String) : Option String :=
  let cs := path.toList
  match parts cs with
  | [] => none
  | parts =>
    let body := ['/'].intercalate (withoutIdleEnd (isAbsolute cs) parts.dropLast)
    some (String.ofList (if isAbsolute cs then '/' :: body else body))

/-- The path of something inside a folder; an absolute path stays as it is. -/
def join (folder inside : String) : String :=
  if isAbsolute inside.toList then inside
  else if folder = "" || folder.toList.getLast? = some '/' then folder ++ inside
  else folder ++ "/" ++ inside

end TrackSelect.Path
