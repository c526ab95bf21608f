import TrackSelect.Text.Numeral

/-!
# Escapes

Characters that are written with a backslash in the arguments of utilities. There are several
manners, which differ in the letters they know and in how numbers are written.
-/

namespace TrackSelect.Utility

/-- Who does the work of a utility: one of the two shells, or a program. -/
inductive Manner where
  | plainShell
  | extendedShell
  | program
deriving DecidableEq, Repr

namespace Escape

/-- The characters that letters stand for behind a backslash. -/
def letter? : Char → Option Char
  | 'a' => some '\x07'
  | 'b' => some '\x08'
  | 'f' => some '\x0c'
  | 'n' => some '\n'
  | 'r' => some '\r'
  | 't' => some '\t'
  | 'v' => some '\x0b'
  | '\\' => some '\\'
  | _ => none

/-- The number of up to so many digits, and the text behind them. -/
def digits (base most : Nat) (cs : List Char) : Option (Nat × List Char) :=
  let ds := (cs.take most).takeWhile fun c => ((Text.hexDigit? c).filter (· < base)).isSome
  (Text.inBase? base ds).map fun n => (n, cs.drop ds.length)

def byte (n : Nat) : Char := Char.ofNat (n % 256)

/-- The character behind a backslash in a format, and the text behind it. -/
def inFormat? (manner : Manner) (cs : List Char) : Option (Char × List Char) :=
  match digits 8 3 cs with
  | some (n, rest) => some (byte n, rest)
  | none =>
    match cs with
    | [] => none
    | c :: rest =>
      match letter? c with
      | some d => some (d, rest)
      | none =>
        if manner = .plainShell then none
        else if c = 'x' then (digits 16 2 rest).map fun (n, rest) => (byte n, rest)
        else if c = 'e' || (c = 'E' && manner = .extendedShell) then some ('\x1b', rest)
        else if c = '"' || (c = '\'' && manner = .extendedShell)
            || (c = '?' && manner = .extendedShell) then some (c, rest)
        else none

/-- A text with its escapes replaced, and whether one of them ends everything. A number has a zero
in front; every step takes at least one character. -/
def replace (manner : Manner) : (fuel : Nat) → List Char → List Char × Bool
  | 0, cs => (cs, false)
  | _, [] => ([], false)
  | fuel + 1, '\\' :: c :: rest =>
    let behind (c : Char) (rest : List Char) : List Char × Bool :=
      let (more, isOver) := replace manner fuel rest
      (c :: more, isOver)
    if c = 'c' then ([], true)
    else if c = '0' then
      match digits 8 3 rest with
      | some (n, rest) => behind (byte n) rest
      | none => behind '\x00' rest
    else match inFormat? manner (c :: rest) with
      | some (d, rest) => behind d rest
      | none => behind '\\' (c :: rest)
  | fuel + 1, c :: rest =>
    let (more, isOver) := replace manner fuel rest
    (c :: more, isOver)

end Escape

/-! ### Arguments on a line -/

namespace Echo

/-- What the options in front of the arguments say: whether there is a line end, and whether
escapes are replaced; with the arguments behind them. -/
def options (hasEnd escapes : Bool) : List String → Bool × Bool × List String
  | [] => (hasEnd, escapes, [])
  | argument :: rest =>
    match argument.toList with
    | '-' :: c :: cs =>
      if (c :: cs).all fun c => c = 'n' || c = 'e' || c = 'E' then
        let hasEnd := hasEnd && !(c :: cs).contains 'n'
        let escapes := (c :: cs).foldl (fun escapes c =>
          if c = 'e' then true else if c = 'E' then false else escapes) escapes
        options hasEnd escapes rest
      else (hasEnd, escapes, argument :: rest)
    | _ => (hasEnd, escapes, argument :: rest)

/-- The arguments on one line. -/
def text (manner : Manner) (arguments : List String) : List Char :=
  let (hasEnd, escapes, words) := match manner, arguments with
    | .plainShell, "-n" :: rest => (false, true, rest)
    | .plainShell, words => (true, true, words)
    | _, words => options true false words
  let line := (" ".intercalate words).toList
  let (line, isOver) := if escapes then Escape.replace manner line.length line else (line, false)
  if hasEnd && !isOver then line ++ ['\n'] else line

end Echo

end TrackSelect.Utility
