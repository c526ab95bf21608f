import TrackSelect.Machine.Utility.Escape
import TrackSelect.Machine.Utility.Stream

/-!
# Translating bytes

`tr` replaces the bytes of one set by those of another, leaves them out, or lets no two of them
follow each other. Sets are written with ranges, classes and escapes.
-/

namespace TrackSelect.Utility.Characters

open TrackSelect.System (Program)

/-- A character of a set, and whether it was written with a backslash. -/
abbrev Marked := Char × Bool

/-- The characters of a set, with escapes replaced. -/
def marked : (fuel : Nat) → List Char → List Marked
  | 0, _ => []
  | _, [] => []
  | fuel + 1, '\\' :: rest =>
    match Escape.digits 8 3 rest with
    | some (n, rest) => (Escape.byte n, true) :: marked fuel rest
    | none =>
      match rest with
      | [] => [('\\', true)]
      | c :: rest => ((Escape.letter? c).getD c, true) :: marked fuel rest
  | fuel + 1, c :: rest => (c, false) :: marked fuel rest

def between (a b : Char) : List Char :=
  (List.range (b.toNat + 1 - a.toNat)).map fun n => Char.ofNat (a.toNat + n)

/-- The characters of a class. -/
def ofClass (name : String) : List Char :=
  let upper := between 'A' 'Z'
  let lower := between 'a' 'z'
  let digits := between '0' '9'
  let marks := between '!' '/' ++ between ':' '@' ++ between '[' '\x60' ++ between '\x7b' '~'
  match name with
  | "upper" => upper
  | "lower" => lower
  | "alpha" => upper ++ lower
  | "digit" => digits
  | "alnum" => digits ++ upper ++ lower
  | "space" => between '\t' '\r' ++ [' ']
  | "blank" => ['\t', ' ']
  | "punct" => marks
  | "print" => between ' ' '~'
  | "graph" => between '!' '~'
  | "cntrl" => between '\x00' '\x1f' ++ ['\x7f']
  | "xdigit" => digits ++ between 'A' 'F' ++ between 'a' 'f'
  | _ => []

/-- The name between the brackets of a class, and what is behind it. -/
def className (cs : List Marked) : Option (String × List Marked) :=
  let name := cs.takeWhile fun c => c.1.isAlpha
  match cs.drop name.length with
  | (':', false) :: (']', _) :: rest => some (String.ofList (name.map (·.1)), rest)
  | _ => none

/-- The characters of a set; a character may be repeated, as often as it takes for a length. -/
def expand (length : Nat) : (fuel : Nat) → List Marked → List Char
  | 0, _ => []
  | _, [] => []
  | fuel + 1, ('[', false) :: (':', false) :: rest =>
    match className rest with
    | some (name, rest) => ofClass name ++ expand length fuel rest
    | none => '[' :: expand length fuel ((':', false) :: rest)
  | fuel + 1, ('[', false) :: (c, _) :: ('*', false) :: rest =>
    let ds := rest.takeWhile fun c => c.1.isDigit
    match rest.drop ds.length with
    | (']', _) :: behind =>
      let n := ((Text.natural? (ds.map (·.1))).filter (0 < ·)).getD length
      List.replicate n c ++ expand length fuel behind
    | _ => '[' :: c :: '*' :: expand length fuel rest
  | fuel + 1, (a, _) :: ('-', false) :: (b, _) :: rest =>
    between a b ++ expand length fuel rest
  | fuel + 1, (c, _) :: rest => c :: expand length fuel rest

def setOf (length : Nat) (text : String) : List Char :=
  let cs := marked text.length text.toList
  expand length (cs.length + 1) cs

/-- The bytes that belong to a set, by their numbers. -/
def membership (isInverse : Bool) (set : List Char) : Array Bool :=
  set.foldl (fun members c => members.setIfInBounds (c.toNat % 256) (!isInverse))
    (Array.replicate 256 isInverse)

/-- What each byte is replaced by. -/
def replacements (isInverse : Bool) (first second : List Char) : Array UInt8 :=
  let identity : Array UInt8 := ((List.range 256).map UInt8.ofNat).toArray
  let first := if isInverse then
      (List.range 256).filterMap fun n =>
        if first.contains (Char.ofNat n) then none else some (Char.ofNat n)
    else first
  let last := second.getLast?.getD '\x00'
  (first.zip (second.rightpad first.length last)).foldl (fun table (c, d) =>
    table.setIfInBounds (c.toNat % 256) (Text.Bytes.toByte d)) identity

/-- Bytes without repetitions of members of a set, and the last of them. -/
def squeeze (members : Array Bool) (last : Option UInt8) (bytes : ByteArray) :
    ByteArray × Option UInt8 :=
  bytes.foldl (fun (kept, last) byte =>
    if last = some byte && members.getD byte.toNat false then (kept, last)
    else (kept.push byte, some byte)) (ByteArray.empty, last)

/-- What `tr` is told to do. -/
structure Plan where
  deleted : Option (Array Bool) := none
  replaced : Option (Array UInt8) := none
  squeezed : Option (Array Bool) := none

/-- Do with some bytes what is told. -/
def Plan.apply (plan : Plan) (last : Option UInt8) (bytes : ByteArray) :
    ByteArray × Option UInt8 :=
  let bytes := match plan.deleted with
    | some members => bytes.foldl (fun kept byte =>
        if members.getD byte.toNat false then kept else kept.push byte) ByteArray.empty
    | none => bytes
  let bytes := match plan.replaced with
    | some table => bytes.foldl (fun kept byte => kept.push (table.getD byte.toNat byte))
        ByteArray.empty
    | none => bytes
  match plan.squeezed with
  | some members => squeeze members last bytes
  | none => (bytes, none)

def tr : Utility := fun _ arguments _ =>
  let known : Known := { plain := "cCdst", names := [("delete", 'd'), ("complement", 'c'),
    ("squeeze-repeats", 's'), ("truncate-set1", 't')] }
  match optionsFrom known false (arguments.length + 1) arguments with
  | .error misuse => refuse 1 (misuse.message "tr")
  | .ok (found, sets) => do
    let isInverse := has found 'c' || has found 'C'
    let wanted := if has found 'd' then (if has found 's' then 2 else 1)
      else if has found 's' then (if sets.length < 2 then 1 else 2) else 2
    match sets with
    | [] => refuse 1 ("tr: missing operand" ++ hint "tr")
    | first :: rest =>
      if sets.length < wanted then
        let why := if has found 'd' then
            "\nTwo strings must be given when both deleting and squeezing repeats."
          else "\nTwo strings must be given when translating."
        return ← refuse 1 ("tr: missing operand after '" ++ first ++ "'" ++ why ++ hint "tr")
      if wanted < sets.length then
        let why := if has found 'd' && !has found 's' then
            "\nOnly one string may be given when deleting without squeezing repeats."
          else ""
        return ← refuse 1 ("tr: extra operand '" ++ (sets[wanted]?).getD "" ++ "'" ++ why ++ hint "tr")
      let one := setOf 0 first
      let count := if isInverse then 256 - one.length else one.length
      let two := setOf count (rest.headD "")
      let one := if has found 't' then one.take two.length else one
      if wanted = 2 && !has found 'd' && two.isEmpty then
        return ← refuse 1 "tr: when not truncating set1, string2 must be non-empty"
      let plan : Plan :=
        { deleted := if has found 'd' then some (membership isInverse one) else none
          replaced := if has found 'd' || sets.length < 2 then none
            else some (replacements isInverse one two)
          squeezed := if has found 's' then
              some (if sets.length < 2 then membership isInverse one else membership false two)
            else none }
      let (_, isFine) ← eachPiece "tr" "-" 0 (none : Option UInt8) fun last bytes => do
        let (bytes, last) := plan.apply last bytes
        emit "tr" bytes
        return (last, true)
      return if isFine then 0 else 1

end TrackSelect.Utility.Characters
