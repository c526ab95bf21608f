/-!
# Patterns of file names

In a pattern a star fits any text, a question mark any character, and brackets one of the
characters or ranges between them. A quoted character fits itself only.
-/

namespace TrackSelect.Shell

/-- A part of a pattern. -/
inductive Fit where
  | any
  | one
  | char (c : Char)
  /-- One of the ranges, or none of them. -/
  | among (inside : Bool) (ranges : List (Char × Char))
deriving DecidableEq, Repr

/-- A character of a word, and whether it has its meaning as part of a pattern. -/
structure Mark where
  char : Char
  isActive : Bool
deriving DecidableEq, Repr

namespace Pattern

/-- The ranges up to the closing bracket, which does not count as such if it comes first, and the
marks behind it. -/
def ranges? (first : Bool) : List Mark → Option (List (Char × Char) × List Mark)
  | [] => none
  | ⟨a, _⟩ :: ⟨'-', true⟩ :: ⟨b, active⟩ :: rest =>
    if a = ']' && !first then some ([], ⟨'-', true⟩ :: ⟨b, active⟩ :: rest)
    else if b = ']' && active then some ([(a, a), ('-', '-')], rest)
    else (ranges? false rest).map fun (more, rest) => ((a, b) :: more, rest)
  | ⟨c, active⟩ :: rest =>
    if c = ']' && active && !first then some ([], rest)
    else (ranges? false rest).map fun (more, rest) => ((c, c) :: more, rest)

/-- The parts of a pattern; each takes at least one mark. -/
def fits (fuel : Nat) (marks : List Mark) : List Fit :=
  match fuel, marks with
  | 0, _ => []
  | _, [] => []
  | fuel + 1, ⟨c, active⟩ :: rest =>
    if !active then .char c :: fits fuel rest
    else if c = '*' then .any :: fits fuel rest
    else if c = '?' then .one :: fits fuel rest
    else if c = '[' then
      let (inside, body) := match rest with
        | ⟨'!', true⟩ :: body => (false, body)
        | body => (true, body)
      match ranges? true body with
      | some (ranges, rest) => .among inside ranges :: fits fuel rest
      | none => .char c :: fits fuel rest
    else .char c :: fits fuel rest

def ofMarks (marks : List Mark) : List Fit := fits marks.length marks

/-- Whether a pattern fits a whole text. -/
def matchesAll : List Fit → List Char → Bool
  | [], cs => cs.isEmpty
  | .any :: rest, [] => matchesAll rest []
  | .any :: rest, c :: cs => matchesAll rest (c :: cs) || matchesAll (.any :: rest) cs
  | _ :: _, [] => false
  | .one :: rest, _ :: cs => matchesAll rest cs
  | .char d :: rest, c :: cs => c = d && matchesAll rest cs
  | .among inside ranges :: rest, c :: cs =>
    (ranges.any fun (a, b) => a ≤ c && c ≤ b) = inside && matchesAll rest cs
termination_by fits cs => fits.length + cs.length

/-- The lengths of the parts at the start of a text that a pattern fits, the shortest first. -/
def prefixLengths (pattern : List Fit) (cs : List Char) : List Nat :=
  (List.range (cs.length + 1)).filter fun n => matchesAll pattern (cs.take n)

/-- A text without a part at its start that a pattern fits. -/
def dropStart (longest : Bool) (pattern : List Fit) (cs : List Char) : List Char :=
  let lengths := prefixLengths pattern cs
  cs.drop (((if longest then lengths.getLast? else lengths.head?)).getD 0)

/-- A text without a part at its end that a pattern fits. -/
def dropEnd (longest : Bool) (pattern : List Fit) (cs : List Char) : List Char :=
  let lengths := (List.range (cs.length + 1)).filter fun n => matchesAll pattern (cs.drop n)
  cs.take ((if longest then lengths.head? else lengths.getLast?).getD cs.length)

end Pattern

end TrackSelect.Shell
