import TrackSelect.Machine.Utility.Stream

/-!
# Utilities for files and folders
-/

namespace TrackSelect.Utility

open TrackSelect.System (Program Facts)

/-- Do something with each path; the status is one if it fails for one of them. -/
def eachPath (paths : List String) (body : String → Program Bool) : Program Nat := do
  let results ← paths.mapM body
  return if results.all id then 0 else 1

def lacksOperand (name : String) : Program Nat := refuse 1 (name ++ ": missing operand" ++ hint name)

/-! ### Paths -/

/-- A path without slashes at its end. -/
def trimPath (path : String) : String :=
  match (path.toList.reverse.dropWhile (· = '/')).reverse with
  | [] => if path = "" then "" else "/"
  | cs => String.ofList cs

/-- The last name of a path. -/
def lastName (path : String) : String :=
  let cs := (trimPath path).toList
  if cs = ['/'] then "/" else String.ofList (cs.reverse.takeWhile (· ≠ '/')).reverse

/-- The path without its last name. -/
def withoutLast (path : String) : String :=
  let cs := (trimPath path).toList
  if cs = ['/'] then "/"
  else match cs.reverse.dropWhile (· ≠ '/') with
    | [] => "."
    | rest => trimPath (String.ofList rest.reverse)

/-- A name without an ending, unless it is nothing else. -/
def withoutSuffix (ending name : String) : String :=
  if ending ≠ "" && name ≠ ending && name.endsWith ending then
    String.ofList (name.toList.take (name.length - ending.length))
  else name

def basename : Utility := fun _ arguments _ =>
  match optionsFrom { plain := "az", valued := "s" } false (arguments.length + 1) arguments with
  | .error misuse => refuse 1 (misuse.message "basename")
  | .ok (found, paths) => do
    match paths with
    | [] => lacksOperand "basename"
    | path :: rest =>
      if has found 'a' || has found 's' then
        let ending := (value? found 's').getD ""
        finish "basename" (unlines (paths.map fun path =>
          (withoutSuffix ending (lastName path)).toList)) 0
      else match rest with
        | _ :: extra :: _ =>
          refuse 1 ("basename: extra operand '" ++ extra ++ "'" ++ hint "basename")
        | _ =>
          finish "basename" ((withoutSuffix (rest.headD "") (lastName path)).toList ++ ['\n']) 0

def dirname : Utility := fun _ arguments _ => do
  let paths := if arguments.head? = some "--" then arguments.drop 1 else arguments
  if paths.isEmpty then return ← lacksOperand "dirname"
  finish "dirname" (unlines (paths.map fun path => (withoutLast path).toList)) 0

/-! ### Folders -/

/-- The paths of the folders on the way to a path, the outer ones first. -/
def ancestors (path : String) : List String :=
  let parts := (trimPath path).splitOn "/"
  let paths := (List.range parts.length).map fun n => "/".intercalate (parts.take (n + 1))
  paths.filter (· ≠ "")

/-- Make a folder and those on the way to it. -/
def makeFolders (name path : String) : Program Bool := do
  let results ← (ancestors path).mapM fun part => do
    match ← Program.ask (.makeFolder part) with
    | .ok () => return none
    | .error errno =>
      match ← Program.ask (.inspect part) with
      | .ok facts => return if facts.kind = .folder then none else some (part, Errno.notDirectory)
      | .error _ => return some (part, errno)
  match results.findSome? id with
  | none => return true
  | some (part, errno) =>
    let errno := if part = trimPath path && errno = .notDirectory then Errno.alreadyThere else errno
    complain (failure name "cannot create directory" part errno)
    return false

def mkdir : Utility := fun _ arguments _ =>
  withOptions "mkdir" { plain := "pv", valued := "m", names := [("parents", 'p')] } arguments 1
      fun found paths => do
    if paths.isEmpty then return ← lacksOperand "mkdir"
    eachPath paths fun path => do
      if has found 'p' then makeFolders "mkdir" path
      else match ← Program.ask (.makeFolder path) with
        | .ok () =>
          if has found 'v' then say ("mkdir: created directory '" ++ path ++ "'\n")
          return true
        | .error errno =>
          complain (failure "mkdir" "cannot create directory" path errno)
          return false

def rmdir : Utility := fun _ arguments _ =>
  withOptions "rmdir" { plain := "p" } arguments 1 fun found paths => do
    if paths.isEmpty then return ← lacksOperand "rmdir"
    eachPath paths fun path => do
      let all := if has found 'p' then (ancestors path).reverse else [path]
      let rec each : List String → Program Bool
        | [] => pure true
        | path :: rest => do
          match ← Program.ask (.removeFolder path) with
          | .ok () => each rest
          | .error errno =>
            complain (failure "rmdir" "failed to remove" path errno)
            return false
      each all

/-- The paths at and below a path with what is known of them, each folder before what is in it;
`fuel` bounds the depth. -/
def below : (fuel : Nat) → String → Program (List (String × Facts))
  | 0, _ => pure []
  | fuel + 1, path => do
    match ← Program.ask (.inspect path) with
    | .error _ => return []
    | .ok facts =>
      if facts.kind ≠ .folder then return [(path, facts)]
      match ← Program.ask (.list path) with
      | .error _ => return [(path, facts)]
      | .ok names =>
        let names := names.mergeSort fun a b => a ≤ b
        let separator := if path.endsWith "/" then "" else "/"
        let inside ← names.mapM fun name => below fuel (path ++ separator ++ name)
        return (path, facts) :: inside.flatten

/-- The depth of folders inside of one another that is gone through. -/
def greatestDepth : Nat := 4096

/-- Remove a path with what is below it. -/
def removeAll (name path : String) : Program Bool := do
  let all ← below greatestDepth path
  let results ← all.reverse.mapM fun (path, facts) => do
    let result ← if facts.kind = .folder then Program.ask (.removeFolder path)
      else Program.ask (.removeFile path)
    match result with
    | .ok () => return true
    | .error errno =>
      complain (failure name "cannot remove" path errno)
      return false
  return results.all id

def rm : Utility := fun _ arguments _ =>
  withOptions "rm" { plain := "rRfidv", names := [("force", 'f'), ("recursive", 'r')] } arguments 1
      fun found paths => do
    if paths.isEmpty then
      return ← if has found 'f' then pure 0 else lacksOperand "rm"
    eachPath paths fun path => do
      match ← Program.ask (.inspect path) with
      | .error errno =>
        if has found 'f' && (errno = .noEntry || errno = .notDirectory) then return true
        complain (failure "rm" "cannot remove" path errno)
        return false
      | .ok facts =>
        let shown := lastName path
        if facts.kind = .folder then
          if has found 'r' || has found 'R' then
            if shown = "." || shown = ".." then
              complain ("rm: refusing to remove '.' or '..' directory: skipping '" ++ path ++ "'")
              return false
            removeAll "rm" (trimPath path)
          else if has found 'd' then
            match ← Program.ask (.removeFolder path) with
            | .ok () => return true
            | .error errno =>
              complain (failure "rm" "cannot remove" path errno)
              return false
          else
            complain (failure "rm" "cannot remove" path .isDirectory)
            return false
        else match ← Program.ask (.removeFile path) with
          | .ok () =>
            if has found 'v' then say ("removed '" ++ path ++ "'\n")
            return true
          | .error errno =>
            complain (failure "rm" "cannot remove" path errno)
            return false

/-! ### Files -/

def touch : Utility := fun _ arguments _ =>
  withOptions "touch" { plain := "acmh", valued := "dtr" } arguments 1 fun found paths => do
    if paths.isEmpty then
      return ← refuse 1 ("touch: missing file operand" ++ hint "touch")
    eachPath paths fun path => do
      match ← Program.ask (.inspect path) with
      | .ok _ => return true
      | .error _ =>
        if has found 'c' then return true
        match ← Program.ask (.open path .append) with
        | .ok number =>
          Program.ask (.close number)
          return true
        | .error errno =>
          complain (failure "touch" "cannot touch" path errno)
          return false

/-- Copy a file. -/
def copyFile (source target : String) : Program Bool := do
  match ← Program.ask (.open source .input) with
  | .error errno =>
    complain ("cp: cannot open '" ++ source ++ "' for reading: " ++ errno.text)
    return false
  | .ok number =>
    let content ← Program.readAll number
    Program.ask (.close number)
    match content with
    | .error errno =>
      complain ("cp: error reading '" ++ source ++ "': " ++ errno.text)
      return false
    | .ok bytes =>
      let isNew := match ← Program.ask (.inspect target) with
        | .ok _ => false
        | .error _ => true
      match ← Program.ask (.open target .output) with
      | .error errno =>
        complain ("cp: cannot create regular file '" ++ target ++ "': " ++ errno.text)
        return false
      | .ok number =>
        discard (Program.write number bytes)
        Program.ask (.close number)
        match isNew, ← Program.ask (.inspect source) with
        | true, .ok facts =>
          if facts.executable then discard (Program.ask (.setExecutable target true))
        | _, _ => pure ()
        return true

/-- Where a path is copied or moved to: into a folder, or to a path of its own. -/
def goalOf (isInto : Bool) (target source : String) : String :=
  if isInto then
    (if target.endsWith "/" then target else target ++ "/") ++ lastName source
  else target

/-- Whether there is a folder at a path. -/
def isFolder (path : String) : Program Bool := do
  match ← Program.ask (.inspect path) with
  | .ok facts => return facts.kind = .folder
  | .error _ => return false

/-- Do something with sources and what they become. -/
def toTarget (name : String) (target? : Option String) (paths : List String)
    (body : (source goal : String) → Program Bool) : Program Nat := do
  let (sources, target?) := match target? with
    | some target => (paths, some target)
    | none => (paths.dropLast, paths.getLast?)
  match target?, sources with
  | none, _ => refuse 1 (name ++ ": missing file operand" ++ hint name)
  | some target, [] =>
    refuse 1 (name ++ ": missing destination file operand after '" ++ target ++ "'" ++ hint name)
  | some target, sources =>
    let isInto ← isFolder target
    if !isInto && 1 < sources.length then
      let facts ← Program.ask (.inspect target)
      let why := match facts with
        | .ok _ => Errno.notDirectory
        | .error errno => errno
      return ← refuse 1 (name ++ ": target '" ++ target ++ "': " ++ why.text)
    eachPath sources fun source => body source (goalOf isInto target source)

def cp : Utility := fun _ arguments _ =>
  withOptions "cp" { plain := "rRafpvnudTL", valued := "t" } arguments 1 fun found paths => do
    let isDeep := has found 'r' || has found 'R' || has found 'a'
    toTarget "cp" (value? found 't') paths fun source goal => do
      match ← Program.ask (.inspect source), ← Program.ask (.inspect goal) with
      | .error errno, _ =>
        complain (failure "cp" "cannot stat" source errno)
        return false
      | .ok facts, other =>
        let isSame : Bool := match other with
          | .ok other => other.identity == facts.identity
          | .error _ => false
        if isSame then
          complain ("cp: '" ++ source ++ "' and '" ++ goal ++ "' are the same file")
          return false
        if has found 'n' && (match other with | .ok _ => true | .error _ => false) then return true
        if facts.kind ≠ .folder then
          if has found 'v' then say ("'" ++ source ++ "' -> '" ++ goal ++ "'\n")
          return ← copyFile source goal
        if !isDeep then
          complain ("cp: -r not specified; omitting directory '" ++ source ++ "'")
          return false
        let base := trimPath source
        let results ← (← below greatestDepth base).mapM fun (path, facts) => do
          let copy := goal ++ String.ofList (path.toList.drop base.length)
          if facts.kind = .folder then
            discard (Program.ask (.makeFolder copy))
            return true
          else copyFile path copy
        return results.all id

def mv : Utility := fun _ arguments _ =>
  withOptions "mv" { plain := "fivnuT", valued := "t" } arguments 1 fun found paths =>
    toTarget "mv" (value? found 't') paths fun source goal => do
      match ← Program.ask (.inspect source), ← Program.ask (.inspect goal) with
      | .error errno, _ =>
        complain (failure "mv" "cannot stat" source errno)
        return false
      | .ok facts, other =>
        let (isThere, isSame) : Bool × Bool := match other with
          | .ok other => (true, other.identity == facts.identity)
          | .error _ => (false, false)
        if isSame then
          complain ("mv: '" ++ source ++ "' and '" ++ goal ++ "' are the same file")
          return false
        if has found 'n' && isThere then return true
        match ← Program.ask (.rename source goal) with
        | .ok () => return true
        | .error errno =>
          complain ("mv: cannot move '" ++ source ++ "' to '" ++ goal ++ "': " ++ errno.text)
          return false

/-- The lines of a listing. -/
def ls : Utility := fun _ arguments _ =>
  withOptions "ls" { plain := "1aAlhdrRtSpFUfmi" } arguments 2 fun found paths => do
    let sorted (names : List String) : List String :=
      let names := names.mergeSort fun a b => a ≤ b
      if has found 'r' then names.reverse else names
    let shown (facts : Facts) (name : String) : String :=
      name ++ if facts.kind = .folder && (has found 'p' || has found 'F') then "/" else
        if facts.executable && facts.kind = .file && has found 'F' then "*" else ""
    let inside (path : String) : Program (List String) := do
      match ← Program.ask (.list path) with
      | .error errno =>
        complain (failure "ls" "cannot open directory" path errno)
        return []
      | .ok names =>
        let dots := if has found 'a' then [".", ".."] else []
        let hides := !(has found 'a' || has found 'A')
        let names := sorted (dots ++ names.filter fun name =>
          !(hides && name.toList.head? = some '.'))
        names.mapM fun name => do
          match ← Program.ask (.inspect (path ++ "/" ++ name)) with
          | .ok facts => return shown facts name
          | .error _ => return name
    let paths := if paths.isEmpty then ["."] else paths
    let results ← paths.mapM fun path => do
      match ← Program.ask (.inspect path) with
      | .ok facts => return some (path, facts)
      | .error errno =>
        complain (failure "ls" "cannot access" path errno)
        return none
    let there := results.filterMap id
    let asFile (facts : Facts) : Bool := facts.kind ≠ .folder || has found 'd'
    let files := sorted ((there.filter fun e => asFile e.2).map fun e => shown e.2 e.1)
    let folders := sorted ((there.filter fun e => !asFile e.2).map (·.1))
    say (String.join (files.map (· ++ "\n")))
    let rec each (isFirst : Bool) : List String → Program Unit
      | [] => pure ()
      | folder :: rest => do
        if 1 < paths.length then
          say ((if isFirst then "" else "\n") ++ folder ++ ":\n")
        say (String.join ((← inside folder).map (· ++ "\n")))
        each false rest
    each files.isEmpty folders
    return if there.length = paths.length then 0 else 2

def chmod : Utility := fun _ arguments _ => do
  match arguments.filter (· ≠ "-R") with
  | [] => lacksOperand "chmod"
  | [mode] => refuse 1 ("chmod: missing operand after '" ++ mode ++ "'" ++ hint "chmod")
  | mode :: paths =>
    let executable? : Option Bool := match Text.inBase? 8 mode.toList with
      | some n => some (n / 64 % 2 = 1)
      | none =>
        if !mode.contains 'x' then none
        else some !(mode.contains '-')
    eachPath paths fun path => do
      match ← Program.ask (.inspect path), executable? with
      | .error errno, _ =>
        complain (failure "chmod" "cannot access" path errno)
        return false
      | .ok _, some executable =>
        discard (Program.ask (.setExecutable path executable))
        return true
      | .ok _, none => return true

/-- Make a new file or folder whose name nobody else has. -/
def mktemp : Utility := fun _ arguments _ =>
  withOptions "mktemp" { plain := "dqut", valued := "p" } arguments 1 fun found paths => do
    let (pid, _) ← Program.ask .self
    let form := paths.headD "tmp.XXXXXXXXXX"
    let stem := String.ofList (form.toList.reverse.dropWhile (· = 'X')).reverse
    let count := form.length - stem.length
    let name := stem ++ String.ofList ((Nat.toDigits 16 (pid + 1048576)).leftpad count 'a')
    let path := if paths.isEmpty then (value? found 'p').getD "/tmp" ++ "/" ++ name else name
    let result ← if has found 'd' then Program.ask (.makeFolder path)
      else do
        match ← Program.ask (.open path .output) with
        | .ok number =>
          Program.ask (.close number)
          pure (.ok ())
        | .error errno => pure (.error errno)
    match result with
    | .ok () => finish "mktemp" (path.toList ++ ['\n']) 0
    | .error errno =>
      refuse 1 ("mktemp: failed to create file via template '" ++ form ++ "': " ++ errno.text)

def truncate : Utility := fun _ arguments _ =>
  withOptions "truncate" { plain := "co", valued := "sr", names := [("size", 's')] } arguments 1
      fun found paths => do
    match (value? found 's').bind quantity? with
    | none => refuse 1 ("truncate: you must specify either '--size' or '--reference'" ++ hint "truncate")
    | some size =>
      eachPath paths fun path => do
        match ← Program.ask (.resize path size) with
        | .ok () => return true
        | .error errno =>
          complain ("truncate: cannot open '" ++ path ++ "' for writing: " ++ errno.text)
          return false

def cmp : Utility := fun _ arguments _ =>
  withOptions "cmp" { plain := "sl" } arguments 2 fun found paths => do
    match paths with
    | [first, second] =>
      match ← content "cmp" first, ← content "cmp" second with
      | some a, some b =>
        let a := Text.Bytes.unpack a
        let b := Text.Bytes.unpack b
        if a = b then return 0
        let same := ((a.zip b).takeWhile fun (c, d) => c = d)
        let isQuiet := has found 's'
        if same.length = min a.length b.length then
          let shorter := if a.length < b.length then first else second
          if !isQuiet then
            complain ("cmp: EOF on " ++ shorter ++ " after byte " ++ toString same.length)
        else if !isQuiet then
          let line := (same.filter fun (c, _) => c = '\n').length + 1
          say (first ++ " " ++ second ++ " differ: byte " ++ toString (same.length + 1) ++
            ", line " ++ toString line ++ "\n")
        return 1
      | _, _ => return 2
    | _ => refuse 2 ("cmp: missing operand after 'cmp'")

/-- The working folder. -/
def place : Utility := fun _ _ _ => do
  finish "pwd" ((← Program.ask .place).toList ++ ['\n']) 0

/-- A path from the root without dots in it. -/
def realpath : Utility := fun called arguments _ =>
  withOptions called { plain := "efmsqz" } arguments 1 fun found paths => do
    let here ← Program.ask .place
    let results ← paths.mapM fun path => do
      let whole := if path.toList.head? = some '/' then path else here ++ "/" ++ path
      let parts := (whole.splitOn "/").foldl (fun sofar part =>
        if part = "" || part = "." then sofar
        else if part = ".." then sofar.dropLast else sofar ++ [part]) []
      let clean := "/" ++ "/".intercalate parts
      let isNeeded := has found 'e'
      match isNeeded, ← Program.ask (.inspect clean) with
      | true, .error errno =>
        complain (called ++ ": " ++ path ++ ": " ++ errno.text)
        return none
      | _, _ => return some clean
    let shown := results.filterMap id
    finish called (unlines (shown.map String.toList)) (if shown.length = paths.length then 0 else 1)

/-- Copy blocks. -/
def dd : Utility := fun _ arguments _ => do
  let settings := arguments.map fun argument =>
    (argument.toList.takeWhile (· ≠ '='), String.ofList ((argument.toList.dropWhile (· ≠ '=')).drop 1))
  let given (name : String) : Option String := settings.lookup name.toList
  let size := (((given "bs").orElse fun _ => given "ibs").bind quantity?).getD 512
  let count? := (given "count").bind quantity?
  let skipped := ((given "skip").bind quantity?).getD 0 * size
  let input? ← match given "if" with
    | none => pure (some 0)
    | some path => do
      match ← Program.ask (.open path .input) with
      | .ok number => pure (some number)
      | .error errno =>
        complain ("dd: failed to open '" ++ path ++ "': " ++ errno.text)
        pure none
  match input? with
  | none => return 1
  | some number =>
    let output? ← match given "of" with
      | none => pure (some 1)
      | some path => do
        match ← Program.ask (.open path .output) with
        | .ok number => pure (some number)
        | .error errno =>
          complain ("dd: failed to open '" ++ path ++ "': " ++ errno.text)
          pure none
    match output? with
    | none => return 1
    | some target =>
      let (whole, part, bytes) ← Program.loop ((0, 0, 0, skipped) : Nat × Nat × Nat × Nat)
        fun (whole, part, total, skipped) => do
          let isDone : Bool := match count? with
            | some count => count ≤ whole + part
            | none => false
          if isDone then return .inr (whole, part, total)
          match ← Program.ask (.read number size) with
          | .error _ => return .inr (whole, part, total)
          | .ok bytes =>
            if bytes.isEmpty then return .inr (whole, part, total)
            if 0 < skipped then return .inl (whole, part, total, skipped - bytes.size)
            discard (Program.write target bytes)
            let isWhole := bytes.size = size
            return .inl (if isWhole then whole + 1 else whole, if isWhole then part else part + 1,
              total + bytes.size, 0)
      if given "status" ≠ some "none" then
        let records := toString whole ++ "+" ++ toString part ++ " records "
        complain (records ++ "in\n" ++ records ++ "out")
        if given "status" ≠ some "noxfer" then complain (toString bytes ++ " bytes copied")
      return 0

end TrackSelect.Utility
