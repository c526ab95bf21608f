import TrackSelect.Machine.Shell.Builtin.Basic

/-!
# Commands that read

`read` takes a line from the input and sets variables to its fields. Only the bytes of the line are
taken, so that the next command goes on behind it.
-/

namespace TrackSelect.Shell.Builtin

/-- A character of a line, and whether a backslash stands in front of it. -/
abbrev Escaped := Char × Bool

namespace Fields

def isBlank (c : Char) : Bool := c = ' ' || c = '\t' || c = '\n'

/-- Whether a character separates fields, and whether it is a blank that does. -/
def separates (separators : List Char) (c : Escaped) : Bool := !c.2 && separators.contains c.1

def isBlankOf (separators : List Char) (c : Escaped) : Bool :=
  separates separators c && isBlank c.1

def textOf (cs : List Escaped) : String := String.ofList (cs.map (·.1))

/-- The last field: all that is left, but no blanks at the end and, if it is a field and one
separator behind it, not the separator. -/
def last (separators : List Char) (cs : List Escaped) : String :=
  let field := cs.takeWhile (!separates separators ·)
  let behind := (cs.drop field.length).dropWhile (isBlankOf separators)
  if behind.length ≤ 1 && behind.all (separates separators) then textOf field
  else textOf (cs.reverse.dropWhile (isBlankOf separators)).reverse

/-- The fields of a line, no more than so many. -/
def split (separators : List Char) : (most : Nat) → List Escaped → List String
  | 0, _ => []
  | most + 1, cs =>
    match cs.dropWhile (isBlankOf separators) with
    | [] => []
    | cs =>
      if most = 0 then [last separators cs]
      else
        let field := cs.takeWhile (!separates separators ·)
        let behind := (cs.drop field.length).dropWhile (isBlankOf separators)
        let behind := match behind with
          | c :: rest => if separates separators c then rest else behind
          | [] => []
        textOf field :: split separators most behind

end Fields

/-- What a line is read from and up to. -/
structure LineSource where
  channel : Nat := 0
  lineEnd : Char := '\n'
  isRaw : Bool := false
  /-- The most characters that are read. -/
  most : Option Nat := none

/-- Whether a backslash at the end of some characters, in reverse order, stands for itself. -/
def endsEscaped (cs : List Char) : Bool := (cs.takeWhile (· = '\\')).length % 2 = 1

/-- A line without its end, and whether there was an end. Lines that end in a backslash are joined
to the next one. -/
def readLine (source : LineSource) : Act (List Char × Bool) :=
  Act.loop ([] : List Char) fun sofar => do
    let left := match source.most with
      | some most => most - sofar.length
      | none => 65536
    if left = 0 then return .inr (sofar.reverse, true)
    match ← Act.ask
        (.readLine source.channel (Text.Bytes.toByte source.lineEnd) left) with
    | .error _ => return .inr (sofar.reverse, false)
    | .ok bytes =>
      if bytes.isEmpty then return .inr (sofar.reverse, false)
      let sofar := (Text.Bytes.unpack bytes).foldl (fun cs c =>
        if c = '\x00' && source.lineEnd ≠ '\x00' then cs else c :: cs) sofar
      match sofar with
      | c :: rest =>
        if c = source.lineEnd then
          if !source.isRaw && endsEscaped rest then return .inl (rest.drop 1)
          else return .inr (rest.reverse, true)
        else return .inl sofar
      | [] => return .inl sofar

/-- The characters of a line, where a backslash takes the meaning from the next one. -/
def escapes (isRaw : Bool) : List Char → List Escaped
  | [] => []
  | '\\' :: rest =>
    if isRaw then ('\\', false) :: escapes isRaw rest
    else match rest with
      | [] => []
      | c :: rest => (c, true) :: escapes isRaw rest
  | c :: rest => (c, false) :: escapes isRaw rest

/-- Set variables to fields; those without a field are empty. -/
def setFields : List String → List String → Act Unit
  | [], _ => pure ()
  | name :: names, fields => do
    Act.setVariable name (fields.headD "")
    setFields names (fields.drop 1)

/-- Options of `read` with their arguments, and the names behind them. -/
def readOptions : (fuel : Nat) → LineSource → Option String → List String →
    Act (LineSource × Option String × List String)
  | 0, source, list, arguments => return (source, list, arguments)
  | _, source, list, [] => return (source, list, [])
  | fuel + 1, source, list, argument :: rest => do
    match argument.toList with
    | ['-', '-'] => return (source, list, rest)
    | '-' :: letter :: more =>
      let plain (source : LineSource) : Act (LineSource × Option String × List String) :=
        if more.isEmpty then readOptions fuel source list rest
        else readOptions fuel source list (String.ofList ('-' :: more) :: rest)
      let value := if more.isEmpty then rest.headD "" else String.ofList more
      let behind := if more.isEmpty then rest.drop 1 else rest
      let isPlain ← Act.isPlain
      if letter = 'r' then plain { source with isRaw := true }
      else if letter = 'p' then
        readOptions fuel source list behind
      else if isPlain then Act.fail ("Illegal option -" ++ String.singleton letter)
      else match letter with
        | 's' | 'e' => plain source
        | 'a' => readOptions fuel source (some value) behind
        | 'n' | 'N' =>
          readOptions fuel { source with most := Text.natural? value.toList } list behind
        | 'd' =>
          readOptions fuel { source with lineEnd := value.toList.headD '\x00' } list behind
        | 'u' =>
          readOptions fuel { source with channel := (Text.natural? value.toList).getD 0 } list behind
        | 't' | 'i' => readOptions fuel source list behind
        | letter =>
          Act.complain ("-" ++ String.singleton letter ++ ": invalid option")
          throw (.fails 2)
    | _ => return (source, list, argument :: rest)

/-- Read a line and set variables to its fields. -/
def read : Builtin := fun _ arguments => do
  let (source, list, names) ← readOptions (arguments.length * 8 + 8) {} none arguments
  let isPlain ← Act.isPlain
  if isPlain && names.isEmpty then Act.fail "arg count"
  let (line, isWhole) ← readLine source
  let cs := escapes source.isRaw line
  let separators ← Act.separators
  match list with
  | some name =>
    let fields := Fields.split separators (cs.length + 1) cs
    Act.hold name (.elements (fields.zipIdx.map fun (text, n) => (n, text)))
  | none =>
    if names.isEmpty then Act.setVariable "REPLY" (Fields.textOf cs)
    else setFields names (Fields.split separators names.length cs)
  return if isWhole then 0 else 1

/-- Set an array to the lines of the input. -/
def readArray : Builtin := fun _ arguments => do
  let drops := arguments.contains "-t"
  let name := (arguments.filter fun argument => argument.toList.head? ≠ some '-').headD "MAPFILE"
  match ← Act.program (System.Program.readAll 0) with
  | .error _ => return 1
  | .ok bytes =>
    let cs := Text.Bytes.unpack bytes
    let lines := cs.splitOn '\n'
    let last := lines.getLastD []
    let whole := lines.dropLast.map fun line => if drops then line else line ++ ['\n']
    let lines := if last.isEmpty then whole else whole ++ [last]
    Act.hold name (.elements (lines.zipIdx.map fun (line, n) => (n, String.ofList line)))
    return 0

end TrackSelect.Shell.Builtin
