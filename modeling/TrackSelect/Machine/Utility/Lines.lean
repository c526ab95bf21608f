import TrackSelect.Machine.Utility.Stream

/-!
# Utilities for lines of text

These read all of their input before they put anything out.
-/

namespace TrackSelect.Utility

open TrackSelect.System (Program)

/-! ### Order -/

/-- How two texts are ordered. -/
structure Order where
  isNumeric : Bool := false
  isReverse : Bool := false
  ignoresCase : Bool := false
  ignoresBlanks : Bool := false

/-- The part of a line that is looked at: from a field and a character of it to another field and
a character. -/
structure SortKey where
  start : Nat × Nat
  stop : Option (Nat × Nat)
  order : Order
  hasOwnOrder : Bool

def isBlank (c : Char) : Bool := c = ' ' || c = '\t'

/-- The number at the start of a text: its sign and its parts, as far as they compare. -/
def leadingNumber (cs : List Char) : Bool × Nat × List Char :=
  let cs := cs.dropWhile isBlank
  let (isNegative, cs) := match cs with
    | '-' :: rest => (true, rest)
    | cs => (false, cs)
  let whole := cs.takeWhile Char.isDigit
  let fraction := match cs.drop whole.length with
    | '.' :: rest => rest.takeWhile Char.isDigit
    | _ => []
  let fraction := (fraction.reverse.dropWhile (· = '0')).reverse
  let n := Nat.ofDigitChars 10 whole 0
  (isNegative && !(n = 0 && fraction = []), n, fraction)

def compareTexts (a b : List Char) : Ordering :=
  compareOfLessAndEq (String.ofList a) (String.ofList b)

def compareNumbers (a b : List Char) : Ordering :=
  let (an, ai, af) := leadingNumber a
  let (bn, bi, bf) := leadingNumber b
  let plain := (compare ai bi).then (compareTexts af bf)
  match an, bn with
  | false, false => plain
  | true, true => plain.swap
  | true, false => .lt
  | false, true => .gt

def Order.compare (order : Order) (a b : List Char) : Ordering :=
  let trim (cs : List Char) : List Char := if order.ignoresBlanks then cs.dropWhile isBlank else cs
  let fold (cs : List Char) : List Char := if order.ignoresCase then cs.map Char.toUpper else cs
  let result := if order.isNumeric then compareNumbers a b
    else compareTexts (fold (trim a)) (fold (trim b))
  if order.isReverse then result.swap else result

/-- The fields of a line, each with the separator in front of it where blanks separate. -/
def sortFields (separator : Option Char) (cs : List Char) : List (List Char) :=
  match separator with
  | some c => cs.splitOn c
  | none => go cs.length [] cs
where
  go : Nat → List (List Char) → List Char → List (List Char)
    | 0, fields, _ => fields.reverse
    | _, fields, [] => fields.reverse
    | fuel + 1, fields, cs =>
      let blanks := cs.takeWhile isBlank
      let word := (cs.drop blanks.length).takeWhile (!isBlank ·)
      go fuel ((blanks ++ word) :: fields) (cs.drop (blanks.length + word.length))

/-- The part of a line that a key means. -/
def SortKey.of (key : SortKey) (separator : Option Char) (line : List Char) : List Char :=
  let fields := sortFields separator line
  let joint := separator.toList
  let joined (fields : List (List Char)) : List Char := joint.intercalate fields
  let behind := joined (fields.drop (key.start.1 - 1))
  let skipped := key.start.2 - 1
  let behind := behind.drop skipped
  match key.stop with
  | none => behind
  | some (field, 0) =>
    (joined ((fields.take field).drop (key.start.1 - 1))).drop skipped
  | some (field, character) =>
    let before := joined ((fields.take (field - 1)).drop (key.start.1 - 1))
    let last := ((fields[field - 1]?).getD []).take character
    (before ++ (if before = [] then [] else joint) ++ last).drop skipped

/-- A place in a line, and the letters behind it. -/
def placeOf (cs : List Char) : (Nat × Nat) × List Char :=
  let field := cs.takeWhile Char.isDigit
  match cs.drop field.length with
  | '.' :: rest =>
    let character := rest.takeWhile Char.isDigit
    ((Nat.ofDigitChars 10 field 0, Nat.ofDigitChars 10 character 0), rest.drop character.length)
  | rest => ((Nat.ofDigitChars 10 field 0, 0), rest)

def orderOf (letters : List Char) : Order where
  isNumeric := letters.contains 'n' || letters.contains 'g' || letters.contains 'h'
  isReverse := letters.contains 'r'
  ignoresCase := letters.contains 'f'
  ignoresBlanks := letters.contains 'b'

def sortKey (text : String) : SortKey :=
  let cs := text.toList
  let first := cs.takeWhile (· ≠ ',')
  let (start, letters) := placeOf first
  let (stop, more) := match cs.drop first.length with
    | ',' :: rest =>
      let (stop, letters) := placeOf rest
      (some stop, letters)
    | _ => (none, [])
  let letters := letters ++ more
  ⟨(max 1 start.1, max 1 start.2), stop, orderOf letters, letters ≠ []⟩

/-- Drop lines that are equal to the ones in front of them. -/
def withoutRepeats (same : List Char → List Char → Bool) : List (List Char) → List (List Char)
  | a :: b :: rest =>
    if same a b then withoutRepeats same (a :: rest) else a :: withoutRepeats same (b :: rest)
  | rest => rest
termination_by l => l.length

def sort : Utility := fun _ arguments _ =>
  withOptions "sort" { plain := "nrufbsgmhVcC", valued := "ktoST", names := [("reverse", 'r'),
      ("unique", 'u'), ("numeric-sort", 'n'), ("key", 'k'), ("field-separator", 't')] } arguments 2
      fun found paths => do
    let order := orderOf (found.map (·.letter))
    let keys := (found.filter (·.letter = 'k')).map fun f => sortKey f.value
    let separator := (value? found 't').bind fun text => text.toList.head?
    let (cs, isFine) ← contents "sort" paths
    if !isFine then return 2
    let byKeys (a b : List Char) : Ordering :=
      if keys.isEmpty then order.compare a b
      else keys.foldl (fun result key =>
        let own := if key.hasOwnOrder then key.order else order
        result.then (own.compare (key.of separator a) (key.of separator b))) .eq
    let isPlain := !has found 's' && !has found 'u'
    let wholly (a b : List Char) : Ordering :=
      let last := compareTexts a b
      let last := if order.isReverse then last.swap else last
      (byKeys a b).then (if isPlain then last else .eq)
    let all := lines cs
    if has found 'c' || has found 'C' then
      let sorted := (all.zip (all.drop 1)).all fun (a, b) => wholly a b ≠ .gt
      return if sorted then 0 else 1
    let sorted := all.mergeSort fun a b => wholly a b ≠ .gt
    let sorted := if has found 'u' then withoutRepeats (fun a b => byKeys a b = .eq) sorted
      else sorted
    match value? found 'o' with
    | none => finish "sort" (unlines sorted) 0
    | some path =>
      match ← Program.ask (.open path .output) with
      | .ok number =>
        discard (write number (unlines sorted))
        return 0
      | .error errno => refuse 2 ("sort: open failed: " ++ path ++ ": " ++ errno.text)

/-- Runs of lines that are the same. -/
def runs (same : List Char → List Char → Bool) : List (List Char) → List (List Char × Nat)
  | [] => []
  | line :: rest =>
    match runs same rest with
    | (other, n) :: more => if same line other then (line, n + 1) :: more else (line, 1) :: (other, n) :: more
    | [] => [(line, 1)]

def uniq : Utility := fun _ arguments _ =>
  withOptions "uniq" { plain := "cdui", valued := "fsw" } arguments 1 fun found paths => do
    let (cs, isFine) ← contents "uniq" (paths.take 1)
    let fold (cs : List Char) : List Char := if has found 'i' then cs.map Char.toLower else cs
    let found' := runs (fun a b => fold a = fold b) (lines cs)
    let kept := found'.filter fun (_, n) =>
      if has found 'd' then 1 < n else if has found 'u' then n = 1 else true
    let shown := kept.map fun (line, n) =>
      if has found 'c' then (Text.digits n).leftpad 7 ' ' ++ ' ' :: line else line
    let status := if isFine then 0 else 1
    match paths.drop 1 with
    | path :: _ =>
      match ← Program.ask (.open path .output) with
      | .ok number =>
        discard (write number (unlines shown))
        return status
      | .error errno => refuse 1 ("uniq: " ++ path ++ ": " ++ errno.text)
    | [] => finish "uniq" (unlines shown) status

/-! ### Columns -/

/-- A list of numbers and ranges. -/
def ranges? (text : String) : Option (List (Nat × Option Nat)) :=
  (text.splitOn ",").mapM fun part =>
    match part.splitOn "-" with
    | [a] => (Text.natural? a.toList).map fun n => (n, some n)
    | [a, b] =>
      let first? := if a = "" then some 1 else Text.natural? a.toList
      let last? := if b = "" then some none else (Text.natural? b.toList).map some
      match first?, last? with
      | some first, some last => some (first, last)
      | _, _ => none
    | _ => none

def isChosen (ranges : List (Nat × Option Nat)) (n : Nat) : Bool :=
  ranges.any fun (first, last) => first ≤ n && (match last with
    | some last => n ≤ last
    | none => true)

def cut : Utility := fun _ arguments _ =>
  withOptions "cut" { plain := "snz", valued := "dfcbO", names := [("delimiter", 'd'),
      ("fields", 'f'), ("characters", 'c'), ("bytes", 'b'), ("output-delimiter", 'O'),
      ("only-delimited", 's'), ("complement", 'C')] } arguments 1 fun found paths => do
    let chosen? := (found.find? fun f => f.letter = 'f' || f.letter = 'c' || f.letter = 'b')
    match chosen? with
    | none => refuse 1 ("cut: you must specify a list of bytes, characters, or fields" ++ hint "cut")
    | some chosen =>
      match ranges? chosen.value with
      | none => refuse 1 ("cut: invalid field range" ++ hint "cut")
      | some ranges =>
        let (cs, isFine) ← contents "cut" paths
        let delimiter := ((value? found 'd').bind fun text => text.toList.head?).getD '\t'
        let joint := ((value? found 'O').map String.toList).getD [delimiter]
        let pick {α : Type} (items : List α) : List α :=
          (items.zipIdx.filter fun (_, n) => isChosen ranges (n + 1)).map (·.1)
        let shown := (lines cs).filterMap fun line =>
          if chosen.letter = 'f' then
            if !line.contains delimiter then (if has found 's' then none else some line)
            else some (joint.intercalate (pick (line.splitOn delimiter)))
          else some (pick line)
        finish "cut" (unlines shown) (if isFine then 0 else 1)

/-- The lines of several files side by side. -/
def sideBySide (delimiters : List Char) : (fuel : Nat) → List (List (List Char)) → List (List Char)
  | 0, _ => []
  | fuel + 1, columns =>
    if columns.all (·.isEmpty) then []
    else
      let cells := columns.map fun column => column.headD []
      let joined := cells.zipIdx.flatMap fun (cell, n) =>
        if n = 0 then cell
        else (delimiters[(n - 1) % max 1 delimiters.length]?).toList ++ cell
      joined :: sideBySide delimiters fuel (columns.map (·.drop 1))

def paste : Utility := fun _ arguments _ =>
  withOptions "paste" { plain := "sz", valued := "d" } arguments 1 fun found paths => do
    let text := (value? found 'd').getD "\t"
    let delimiters := (text.replace "\\n" "\n").replace "\\t" "\t" |>.toList
    let columns ← (orInput paths).mapM fun path => do
      return ((← content "paste" path).map fun bytes => lines (Text.Bytes.unpack bytes)).getD []
    let shown := if has found 's' then
        columns.map fun column => column.zipIdx.flatMap fun (cell, n) =>
          if n = 0 then cell
          else (delimiters[(n - 1) % max 1 delimiters.length]?).toList ++ cell
      else
        let longest := (columns.map List.length).foldl max 0
        sideBySide delimiters longest columns
    finish "paste" (unlines shown) 0

/-! ### Other orders of lines -/

def tac : Utility := fun _ arguments _ =>
  withOptions "tac" {} arguments 1 fun _ paths => do
    let (cs, isFine) ← contents "tac" paths
    let hasEnd := cs.getLast? = some '\n' || cs = []
    let reversed := (lines cs).reverse
    let shown := match hasEnd, reversed with
      | false, first :: second :: rest => (first ++ second) :: rest
      | _, lines => lines
    let text := unlines shown
    finish "tac" (if !hasEnd && reversed.length = 1 then text.dropLast else text)
      (if isFine then 0 else 1)

def rev : Utility := fun _ arguments _ => do
  let (cs, isFine) ← contents "rev" arguments
  let hasEnd := cs.getLast? = some '\n'
  let text := unlines ((lines cs).map List.reverse)
  finish "rev" (if hasEnd then text else text.dropLast) (if isFine then 0 else 1)

/-- The lines with their numbers in front. -/
def nl : Utility := fun _ arguments _ =>
  withOptions "nl" { plain := "p", valued := "bnswvi" } arguments 1 fun found paths => do
    let (cs, isFine) ← contents "nl" paths
    let width := ((value? found 'w').bind fun text => Text.natural? text.toList).getD 6
    let separator := (value? found 's').getD "\t"
    let all := value? found 'b' = some "a"
    let (_, shown) := (lines cs).foldl (fun (next, shown) line =>
      if line = [] && !all then
        (next, (List.replicate (width + separator.length) ' ' ++ line) :: shown)
      else
        let number := Text.digits next
        let number := match value? found 'n' with
          | some "ln" => number.rightpad width ' '
          | some "rz" => number.leftpad width '0'
          | _ => number.leftpad width ' '
        (next + 1, (number ++ separator.toList ++ line) :: shown))
      ((1 : Nat), ([] : List (List Char)))
    finish "nl" (unlines shown.reverse) (if isFine then 0 else 1)

/-! ### Sequences -/

/-- A decimal number: its digits as a whole number, and how many of them are behind the point. -/
def decimal? (text : String) : Option (Int × Nat) :=
  let (sign, cs) : Int × List Char := match text.toList with
    | '-' :: rest => (-1, rest)
    | '+' :: rest => (1, rest)
    | cs => (1, cs)
  let whole := cs.takeWhile Char.isDigit
  let fraction? := match cs.drop whole.length with
    | [] => some []
    | '.' :: rest => if rest.all Char.isDigit then some rest else none
    | _ => none
  match fraction? with
  | some fraction =>
    if whole ++ fraction = [] then none
    else some (sign * Nat.ofDigitChars 10 (whole ++ fraction) 0, fraction.length)
  | none => none

/-- A number with some places, from its value times a power of ten. -/
def decimalText (places : Nat) (n : Int) : List Char :=
  let digits := (Text.digits n.natAbs).leftpad (places + 1) '0'
  let whole := digits.take (digits.length - places)
  let fraction := digits.drop (digits.length - places)
  (if n < 0 then ['-'] else []) ++ whole ++ if places = 0 then [] else '.' :: fraction

/-- Whether an argument is a negative number. -/
def isNegative (argument : String) : Bool :=
  match argument.toList with
  | '-' :: c :: _ => c.isDigit || c = '.'
  | _ => false

def seq : Utility := fun _ arguments _ => do
  let flags := arguments.takeWhile fun a => a.toList.head? = some '-' && !isNegative a
  let rest := arguments.drop flags.length
  let (separator, isPadded, rest) : String × Bool × List String := match flags, rest with
    | ["-s"], separator :: rest => (separator, false, rest)
    | ["-w"], rest => ("\n", true, rest)
    | [flag], rest =>
      if flag.startsWith "-s" then (String.ofList (flag.toList.drop 2), false, rest)
      else ("\n", false, rest)
    | _, rest => ("\n", false, rest)
  let numbers? : Option (List (Int × Nat)) := rest.mapM decimal?
  match numbers? with
  | none =>
    let strange := (rest.find? fun a => (decimal? a).isNone).getD ""
    refuse 1 ("seq: invalid floating point argument: '" ++ strange ++ "'" ++ hint "seq")
  | some numbers =>
    let triple? : Option ((Int × Nat) × (Int × Nat) × (Int × Nat)) := match numbers with
      | [last] => some ((1, 0), (1, 0), last)
      | [first, last] => some (first, (1, 0), last)
      | [first, step, last] => some (first, step, last)
      | _ => none
    match triple? with
    | none =>
      if rest.isEmpty then refuse 1 ("seq: missing operand" ++ hint "seq")
      else refuse 1 ("seq: extra operand '" ++ (rest[3]?).getD "" ++ "'" ++ hint "seq")
    | some (first, step, last) =>
      let places := max first.2 (max step.2 last.2)
      let scaled (n : Int × Nat) : Int := n.1 * tenTo (places - n.2)
      let (a, d, b) := (scaled first, scaled step, scaled last)
      if d = 0 then
        return ← refuse 1 ("seq: invalid Zero increment value: '" ++ (rest[1]?).getD "" ++ "'" ++ hint "seq")
      let shownPlaces := max first.2 step.2
      let text (n : Int) : List Char :=
        decimalText shownPlaces (n / (tenTo (places - shownPlaces) : Nat))
      let width := max (text a).length (text b).length
      let padded (cs : List Char) : List Char :=
        if isPadded then
          match cs with
          | '-' :: ds => '-' :: ds.leftpad (width - 1) '0'
          | ds => ds.leftpad width '0'
        else cs
      let mark := separator.toList
      let block : Nat := 1000
      let isOver (n : Int) : Bool := if 0 < d then b < n else n < b
      if isOver a then return 0
      Program.loop a fun next => do
        let values := ((List.range block).map fun (i : Nat) => next + d * (i : Int)).takeWhile
          fun n => !isOver n
        let isLast := isOver (next + d * (block : Int))
        let cs := (values.map fun n => padded (text n))
        let body := mark.intercalate cs ++ if isLast then ['\n'] else mark
        emit "seq" (Text.Bytes.pack body)
        return if isLast then .inr 0 else .inl (next + d * (block : Int))

end TrackSelect.Utility
