import TrackSelect.Machine.Shell.Script
import TrackSelect.Text.Numeral

/-!
# Alternatives in words

In the extended dialect a word with alternatives between braces stands for several words, one for
each alternative, and one with a range for each number or letter of the range.
-/

namespace TrackSelect.Shell.Braces

/-- A part of a word: a character that is not quoted, or any other piece. -/
inductive Item where
  | char (c : Char)
  | piece (piece : Piece)

def items : Word → List Item
  | [] => []
  | .text false cs :: rest => cs.map .char ++ items rest
  | piece :: rest => .piece piece :: items rest

/-- The word of some items. -/
def word : List Item → Word
  | [] => []
  | .char c :: rest =>
    match word rest with
    | .text false cs :: more => .text false (c :: cs) :: more
    | more => .text false [c] :: more
  | .piece piece :: rest => piece :: word rest

/-- The items up to the closing brace, cut at the commas that are not inside of other braces, and
the items behind it. -/
def alternatives? : (depth : Nat) → (current : List Item) → List Item →
    Option (List (List Item) × List Item)
  | _, _, [] => none
  | depth, current, .char '\x7d' :: rest =>
    if depth = 0 then some ([current.reverse], rest)
    else alternatives? (depth - 1) (.char '\x7d' :: current) rest
  | depth, current, .char '\x7b' :: rest =>
    alternatives? (depth + 1) (.char '\x7b' :: current) rest
  | depth, current, .char ',' :: rest =>
    if depth = 0 then
      (alternatives? 0 [] rest).map fun (others, rest) => (current.reverse :: others, rest)
    else alternatives? depth (.char ',' :: current) rest
  | depth, current, item :: rest => alternatives? depth (item :: current) rest

/-- The characters of items, if all of them are characters. -/
def chars? (items : List Item) : Option (List Char) :=
  items.mapM fun
    | .char c => some c
    | .piece _ => none

/-- A whole number after a sign or none. -/
def integer? (cs : List Char) : Option Int :=
  match cs with
  | '-' :: ds => (Text.natural? ds).map fun n => -n
  | ds => (Text.natural? ds).map fun n => n

/-- The numbers from one to another with some distance. -/
def numbers (first last : Int) (step : Nat) : List Int :=
  let step := max 1 step
  (List.range ((last - first).natAbs / step + 1)).map fun (n : Nat) =>
    let passed : Int := Int.ofNat (n * step)
    if first ≤ last then first + passed else first - passed

/-- The text of a number of a range, as wide as the ends of it if one of them has a zero in
front. -/
def numeral (width : Nat) (n : Int) : List Char :=
  if n < 0 then '-' :: (Text.digits n.natAbs).leftpad (width - 1) '0'
  else (Text.digits n.natAbs).leftpad width '0'

/-- The texts of a range. -/
def range? (cs : List Char) : Option (List (List Char)) :=
  match String.splitOn (String.ofList cs) ".." with
  | first :: last :: rest =>
    let step? : Option Nat := match rest with
      | [] => some 1
      | [step] => (integer? step.toList).map Int.natAbs
      | _ => none
    match step?, integer? first.toList, integer? last.toList with
    | some step, some a, some b =>
      let isPadded (text : String) : Bool :=
        match text.toList with
        | '0' :: _ :: _ | '-' :: '0' :: _ => true
        | _ => false
      let width := if isPadded first || isPadded last then max first.length last.length else 0
      some ((numbers a b step).map (numeral width))
    | some step, _, _ =>
      match first.toList, last.toList with
      | [a], [b] =>
        if a.isAlpha && b.isAlpha then
          some ((numbers a.toNat b.toNat step).map fun n => [Char.ofNat n.toNat])
        else none
      | _, _ => none
    | _, _, _ => none
  | _ => none

/-- The words that items stand for; `fuel` bounds how often a brace is looked at. -/
def expandItems : (fuel : Nat) → List Item → List (List Item)
  | 0, items => [items]
  | _, [] => [[]]
  | fuel + 1, .char '\x7b' :: rest =>
    match alternatives? 0 [] rest with
    | none => (expandItems fuel rest).map (.char '\x7b' :: ·)
    | some ([only], behind) =>
      match (chars? only).bind range? with
      | some texts =>
        let ends := expandItems fuel behind
        texts.flatMap fun text => ends.map (text.map .char ++ ·)
      | none => (expandItems fuel rest).map (.char '\x7b' :: ·)
    | some (choices, behind) =>
      let ends := expandItems fuel behind
      (choices.flatMap (expandItems fuel)).flatMap fun choice => ends.map (choice ++ ·)
  | fuel + 1, item :: rest => (expandItems fuel rest).map (item :: ·)

/-- The words that a word stands for. -/
def expand (source : Word) : List Word :=
  let items := items source
  if items.any (fun | .char c => c = '\x7b' | .piece _ => false) then
    (expandItems (2 * items.length + 2) items).map word
  else [source]

end TrackSelect.Shell.Braces
