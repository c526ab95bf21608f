import TrackSelect.Machine.Utility.Basic

/-!
# Utilities for streams of bytes

These read their input piece by piece, and put out as much as they can before they read more.
-/

namespace TrackSelect.Utility

open TrackSelect.System (Program)

/-- The next piece of the input; none at the end. -/
def nextPiece (name path : String) (number : Nat) : Program (Option ByteArray × Bool) := do
  match ← Program.ask (.read number Program.chunk) with
  | .ok bytes => return (if bytes.isEmpty then none else some bytes, true)
  | .error errno =>
    let shown := if path = "-" then "standard input" else path
    let shown := if name = "cat" then path else "error reading '" ++ shown ++ "'"
    complain (name ++ ": " ++ shown ++ ": " ++ errno.text)
    return (none, false)

/-- End because nothing can be written any more. -/
def writeFailed {α : Type} (name : String) (errno : Errno) : Program α := do
  complain (name ++ ": write error: " ++ errno.text)
  Program.finish 1

/-- Write bytes, or end. -/
def emit (name : String) (bytes : ByteArray) : Program Unit := do
  if bytes.isEmpty then return
  match ← Program.write 1 bytes with
  | .ok () => pure ()
  | .error errno => writeFailed name errno

/-- Do something with each piece of a file; the value goes from piece to piece, and nothing ends
it early. -/
def eachPiece {σ : Type} (name path : String) (number : Nat) (start : σ)
    (step : σ → ByteArray → Program (σ × Bool)) : Program (σ × Bool) :=
  Program.loop start fun s => do
    match ← nextPiece name path number with
    | (none, isFine) => return .inr (s, isFine)
    | (some bytes, _) =>
      let (s, goesOn) ← step s bytes
      return if goesOn then .inl s else .inr (s, true)

/-- Do something with each of some files, or with the input if there are none; the status is one
if a file could not be read. -/
def eachFile {σ : Type} (name : String) (start : σ) (step : σ → String → Nat → Program (σ × Bool)) :
    (status : Nat) → List String → Program (σ × Nat)
  | status, [] => pure (start, status)
  | status, path :: rest => do
    match ← openInput name path with
    | none => eachFile name start step 1 rest
    | some number =>
      let (s, isFine) ← step start path number
      closeInput number
      eachFile name s step (if isFine then status else 1) rest

def orInput (paths : List String) : List String := if paths.isEmpty then ["-"] else paths

/-! ### Files one behind the other -/

/-- The lines of a text with their numbers in front. -/
def numbered (skipsEmpty : Bool) : (next : Nat) → List (List Char) → List (List Char)
  | _, [] => []
  | next, line :: rest =>
    if line = [] && skipsEmpty then line :: numbered skipsEmpty next rest
    else ((Text.digits next).leftpad 6 ' ' ++ '\t' :: line) :: numbered skipsEmpty (next + 1) rest

/-- Lines of which no two empty ones follow each other. -/
def squeezed : List (List Char) → List (List Char)
  | [] :: [] :: rest => squeezed ([] :: rest)
  | line :: rest => line :: squeezed rest
  | [] => []

/-- A byte in a form that can be seen. -/
def visible (showsTabs : Bool) (c : Char) : List Char :=
  let n := c.toNat
  if c = '\t' then if showsTabs then ['^', 'I'] else [c]
  else if c = '\n' then [c]
  else if n < 32 then ['^', Char.ofNat (n + 64)]
  else if n = 127 then ['^', '?']
  else if n < 128 then [c]
  else
    let m := n - 128
    'M' :: '-' :: (if m < 32 then ['^', Char.ofNat (m + 64)]
      else if m = 127 then ['^', '?'] else [Char.ofNat m])

def cat : Utility := fun _ arguments _ =>
  withOptions "cat" { plain := "nbsuvETAet" } arguments 1 fun found paths => do
    if found.all (·.letter = 'u') then
      let (_, status) ← eachFile "cat" () (fun _ path number =>
        eachPiece "cat" path number () fun _ bytes => do
          emit "cat" bytes
          return ((), true)) 0 (orInput paths)
      return status
    else
      let (cs, isFine) ← contents "cat" paths
      let hasEnd := cs.getLast? = some '\n'
      let shown := lines cs
      let shown := if has found 's' then squeezed shown else shown
      let all := has found 'A'
      let seesTabs := all || has found 'T' || has found 't'
      let seesAll := all || has found 'v' || has found 'e' || has found 't'
      let shown := if seesAll then shown.map (·.flatMap (visible seesTabs))
        else if seesTabs then
          shown.map (·.flatMap fun c => if c = '\t' then ['^', 'I'] else [c])
        else shown
      let shown := if all || has found 'E' || has found 'e' then shown.map (· ++ ['$']) else shown
      let shown := if has found 'b' then numbered true 1 shown
        else if has found 'n' then numbered false 1 shown else shown
      let text := unlines shown
      finish "cat" (if hasEnd then text else text.dropLast) (if isFine then 0 else 1)

/-! ### First and last parts -/

/-- How much of a file is wanted. -/
structure Share where
  count : Nat
  inBytes : Bool
  /-- Whether the count is from the other end. -/
  isInverse : Bool

/-- Where the first so many lines end, and how many are missing then. -/
def lineLimit (bytes : ByteArray) : (fuel index left : Nat) → Nat × Nat
  | 0, index, left => (index, left)
  | fuel + 1, index, left =>
    if left = 0 || bytes.size ≤ index then (index, left)
    else lineLimit bytes fuel (index + 1) (if bytes.get! index = 10 then left - 1 else left)

/-- Put out the start of a file. -/
def headOf (share : Share) (path : String) (number : Nat) : Program Bool := do
  if share.isInverse then
    match ← Program.readAll number with
    | .error _ => return false
    | .ok bytes =>
      let cs := Text.Bytes.unpack bytes
      if share.inBytes then
        discard (write 1 (cs.take (cs.length - share.count)))
      else
        let all := lines cs
        discard (write 1 (unlines (all.take (all.length - share.count))))
      return true
  if share.count = 0 then return true
  let (_, isFine) ← eachPiece "head" path number share.count fun left bytes => do
    let (length, left) := if share.inBytes then (min left bytes.size, left - bytes.size)
      else lineLimit bytes bytes.size 0 left
    emit "head" (bytes.extract 0 length)
    return (left, 0 < left)
  return isFine

/-- The options of `head` and `tail` in the old manner, with a number behind the sign, in the usual
one. -/
def modernised : List String → List String
  | argument :: rest =>
    match argument.toList with
    | '-' :: c :: cs =>
      if c.isDigit then
        let ds := (c :: cs).takeWhile Char.isDigit
        match (c :: cs).drop ds.length with
        | ['c'] => "-c" :: String.ofList ds :: rest
        | _ => "-n" :: String.ofList ds :: rest
      else argument :: rest
    | _ => argument :: rest
  | [] => []

/-- Headings in front of the parts of several files. -/
def heading (shows isFirst : Bool) (path : String) : Program Unit := do
  if shows then
    let shown := if path = "-" then "standard input" else path
    say ((if isFirst then "" else "\n") ++ "==> " ++ shown ++ " <==\n")

def head : Utility := fun _ arguments _ =>
  withOptions "head"
      { plain := "qvz", valued := "nc", names := [("lines", 'n'), ("bytes", 'c'), ("quiet", 'q')] }
      (modernised arguments) 1 fun found paths => do
    let wanted := (found.reverse.find? fun f => f.letter = 'n' || f.letter = 'c').getD ⟨'n', "10"⟩
    let isInverse := wanted.value.toList.head? = some '-'
    let digits := if isInverse then String.ofList (wanted.value.toList.drop 1) else wanted.value
    match quantity? digits with
    | none =>
      let what := if wanted.letter = 'c' then "bytes" else "lines"
      refuse 1 ("head: invalid number of " ++ what ++ ": '" ++ wanted.value ++ "'")
    | some count =>
      let share : Share := ⟨count, wanted.letter = 'c', isInverse⟩
      let shows := (1 < paths.length || has found 'v') && !has found 'q'
      let opened (path : String) : Program (Option Nat) := do
        if path = "-" then return some 0
        match ← Program.ask (.open path .input) with
        | .ok number => return some number
        | .error errno =>
          complain ("head: cannot open '" ++ path ++ "' for reading: " ++ errno.text)
          return none
      let rec each (isFirst : Bool) (status : Nat) : List String → Program Nat
        | [] => pure status
        | path :: rest => do
          match ← opened path with
          | none => each isFirst 1 rest
          | some number =>
            heading shows isFirst path
            let isFine ← headOf share path number
            closeInput number
            each false (if isFine then status else 1) rest
      each true 0 (orInput paths)

def tail : Utility := fun _ arguments _ =>
  withOptions "tail"
      { plain := "qvfFz", valued := "nc", names := [("lines", 'n'), ("bytes", 'c'), ("quiet", 'q')] }
      (modernised arguments) 1 fun found paths => do
    let wanted := (found.reverse.find? fun f => f.letter = 'n' || f.letter = 'c').getD ⟨'n', "10"⟩
    let sign := wanted.value.toList.head?
    let digits := if sign = some '-' || sign = some '+' then
      String.ofList (wanted.value.toList.drop 1) else wanted.value
    match quantity? digits with
    | none =>
      let what := if wanted.letter = 'c' then "bytes" else "lines"
      refuse 1 ("tail: invalid number of " ++ what ++ ": '" ++ wanted.value ++ "'")
    | some count =>
      let part (cs : List Char) : List Char :=
        if wanted.letter = 'c' then
          if sign = some '+' then cs.drop (count - 1) else cs.drop (cs.length - count)
        else
          let hasEnd := cs.getLast? = some '\n'
          let all := lines cs
          let kept := if sign = some '+' then all.drop (count - 1) else all.drop (all.length - count)
          let text := unlines kept
          if hasEnd then text else text.dropLast
      let shows := (1 < paths.length || has found 'v') && !has found 'q'
      let rec each (isFirst : Bool) (status : Nat) : List String → Program Nat
        | [] => pure status
        | path :: rest => do
          let bytes? ← if path = "-" then do pure (some (← Program.readAll 0))
            else match ← Program.ask (.open path .input) with
              | .ok number => do
                let bytes ← Program.readAll number
                Program.ask (.close number)
                pure (some bytes)
              | .error errno => do
                complain ("tail: cannot open '" ++ path ++ "' for reading: " ++ errno.text)
                pure none
          match bytes? with
          | some (.ok bytes) =>
            heading shows isFirst path
            if !(← write 1 (part (Text.Bytes.unpack bytes))) then return 1
            each false status rest
          | some (.error errno) =>
            complain ("tail: error reading '" ++ path ++ "': " ++ errno.text)
            each false 1 rest
          | none => each isFirst 1 rest
      each true 0 (orInput paths)

/-! ### Counts -/

/-- What is counted in a file. -/
structure Counts where
  lines : Nat := 0
  words : Nat := 0
  bytes : Nat := 0
  longest : Nat := 0
  inWord : Bool := false
  width : Nat := 0

namespace Counts

def isBlank (byte : UInt8) : Bool := byte = 32 || (9 ≤ byte && byte ≤ 13)

def add (counts : Counts) (byte : UInt8) : Counts :=
  let blank := isBlank byte
  let width := if byte = 10 then 0 else if 32 ≤ byte && byte < 127 then counts.width + 1
    else counts.width
  { lines := if byte = 10 then counts.lines + 1 else counts.lines
    words := if !blank && !counts.inWord then counts.words + 1 else counts.words
    bytes := counts.bytes + 1
    inWord := !blank
    width
    longest := max counts.longest width }

def sum (a b : Counts) : Counts where
  lines := a.lines + b.lines
  words := a.words + b.words
  bytes := a.bytes + b.bytes
  longest := max a.longest b.longest

end Counts

def wc : Utility := fun _ arguments _ =>
  withOptions "wc" { plain := "lwcmL", names := [("lines", 'l'), ("words", 'w'), ("bytes", 'c'),
      ("chars", 'm'), ("max-line-length", 'L')] } arguments 1 fun found paths => do
    let all := found.isEmpty
    let shown (counts : Counts) : List Nat :=
      (if all || has found 'l' then [counts.lines] else []) ++
      (if all || has found 'w' then [counts.words] else []) ++
      (if has found 'm' then [counts.bytes] else []) ++
      (if all || has found 'c' then [counts.bytes] else []) ++
      (if has found 'L' then [counts.longest] else [])
    let countOf (path : String) (number : Nat) : Program (Counts × Bool) :=
      eachPiece "wc" path number ({} : Counts) fun counts bytes => do
        return (bytes.foldl Counts.add counts, true)
    let sizeOf (path : String) : Program (Nat × Bool) := do
      let facts : Except Errno System.Facts ←
        if path = "-" then Program.ask (.inspectOpen 0) else Program.ask (.inspect path)
      return match facts with
        | .ok facts => if facts.kind = .file then (facts.size, true) else (0, false)
        | .error _ => (0, true)
    let sizes ← (orInput paths).mapM sizeOf
    let single := (shown {}).length = 1 && paths.length ≤ 1
    let total := sizes.foldl (fun sum size => sum + size.1) 0
    let digits := (Text.digits total).length
    let width := if single then 1 else if sizes.all (·.2) then digits else max 7 digits
    let line (counts : Counts) (label : String) : List Char :=
      let numbers := (shown counts).map fun n => (Text.digits n).leftpad width ' '
      [' '].intercalate numbers ++ (if label = "" then [] else ' ' :: label.toList) ++ ['\n']
    let (sum, status) ← eachFile "wc" ({} : Counts) (fun sum path number => do
      let (counts, isFine) ← countOf path number
      discard (write 1 (line counts (if paths.isEmpty then "" else path)))
      return (sum.sum counts, isFine)) 0 (orInput paths)
    if 1 < paths.length then discard (write 1 (line sum "total"))
    return status

/-! ### Repetition and waiting -/

/-- Put out a line over and over. -/
def yes : Utility := fun _ arguments _ => do
  let words := if arguments.head? = some "--" then arguments.drop 1 else arguments
  let line := (" ".intercalate (if words.isEmpty then ["y"] else words)) ++ "\n"
  let bytes := Text.Bytes.packString line
  let times := max 1 (8192 / bytes.size)
  let block := (List.replicate times bytes).foldl (· ++ ·) ByteArray.empty
  Program.loop () fun () => do
    emit "yes" block
    return .inl ()

/-- A time in microseconds: a number with or without a fraction, and a unit. -/
def time? (text : String) : Option Nat :=
  let cs := text.toList
  let unit? : Option (Nat × List Char) := match cs.getLast? with
    | some 's' => some (1, cs.dropLast)
    | some 'm' => some (60, cs.dropLast)
    | some 'h' => some (3600, cs.dropLast)
    | some 'd' => some (86400, cs.dropLast)
    | some _ => some (1, cs)
    | none => none
  match unit? with
  | none => none
  | some (unit, cs) =>
    if cs = "inf".toList || cs = "infinity".toList then some (tenTo 18)
    else
      let whole := cs.takeWhile Char.isDigit
      match cs.drop whole.length with
      | [] => (Text.natural? whole).map fun n => n * unit * 1000000
      | '.' :: fraction =>
        if (whole ++ fraction).all Char.isDigit && whole ++ fraction ≠ [] then
          some ((Nat.ofDigitChars 10 whole 0 * 1000000
            + Nat.ofDigitChars 10 ((fraction.take 6).rightpad 6 '0') 0) * unit)
        else none
      | _ => none

def sleep : Utility := fun _ arguments _ => do
  let arguments := if arguments.head? = some "--" then arguments.drop 1 else arguments
  if arguments.isEmpty then return ← refuse 1 ("sleep: missing operand" ++ hint "sleep")
  match arguments.find? fun argument => (time? argument).isNone with
  | some strange =>
    if strange.toList.head? = some '-' && 1 < strange.length then
      let letter := (strange.toList.drop 1).headD ' '
      refuse 1 ((Misuse.unknown letter).message "sleep")
    else refuse 1 ("sleep: invalid time interval '" ++ strange ++ "'" ++ hint "sleep")
  | none =>
    Program.ask (.sleep ((arguments.filterMap time?).foldl (· + ·) 0))
    return 0

/-! ### Copies -/

/-- Put the input out, and into files. -/
def tee : Utility := fun _ arguments _ =>
  withOptions "tee" { plain := "aip" } arguments 1 fun found paths => do
    let mode : System.Mode := if has found 'a' then .append else .output
    let opened ← paths.mapM fun path => do
      match ← Program.ask (.open path mode) with
      | .ok number => return some number
      | .error errno =>
        complain ("tee: " ++ path ++ ": " ++ errno.text)
        return none
    let targets := opened.filterMap id
    let (_, isFine) ← eachPiece "tee" "-" 0 () fun _ bytes => do
      emit "tee" bytes
      targets.forM fun number => do discard (Program.write number bytes)
      return ((), true)
    return if isFine && opened.all (·.isSome) then 0 else 1

end TrackSelect.Utility
