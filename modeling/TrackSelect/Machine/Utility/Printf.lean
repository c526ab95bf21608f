import TrackSelect.Binary64.Reading
import TrackSelect.Machine.Utility.Escape

/-!
# Formatted printing

A format is put out with its conversions replaced by arguments, again and again until all
arguments are used. `Printf.run` gives what is put out, the complaints about arguments that are no
numbers, and the status.
-/

namespace TrackSelect.Utility.Printf

/-- A conversion of a format. The width and the precision may be taken from arguments. -/
structure Conversion where
  flags : List Char := []
  width : Nat := 0
  precision : Option Nat := none
  letter : Char

/-- What has been printed, the last character first. -/
structure Printed where
  out : List Char := []
  complaints : List String := []
  status : Nat := 0
  /-- The arguments that are left. -/
  arguments : List String
  isOver : Bool := false

/-! ### Numbers -/

/-- The value of a number in the manner of constants, and the text behind it. -/
def integerPart (cs : List Char) : Option (Int × List Char) :=
  let cs := cs.dropWhile fun c => c = ' ' || c = '\t' || c = '\n'
  let (sign, digits) : Int × List Char := match cs with
    | '-' :: ds => (-1, ds)
    | '+' :: ds => (1, ds)
    | ds => (1, ds)
  let (base, digits) := match digits with
    | '0' :: x :: ds =>
      if (x = 'x' || x = 'X') && (ds.head?.bind Text.hexDigit?).isSome then (16, ds)
      else (8, digits)
    | '0' :: _ => (8, digits)
    | _ => (10, digits)
  (Escape.digits base digits.length digits).map fun (n, rest) => (sign * n, rest)

/-- The complaint about an argument that is no number at all, or goes on behind one. -/
def complaint (manner : Manner) (text : String) (isPart : Bool) : String :=
  match manner, isPart with
  | .plainShell, false => text ++ ": expected numeric value"
  | .plainShell, true => text ++ ": not completely converted"
  | .extendedShell, _ => text ++ ": invalid number"
  | .program, false => "'" ++ text ++ "': expected a numeric value"
  | .program, true => "'" ++ text ++ "': value not completely converted"

/-- The number that an argument stands for. -/
def integer (manner : Manner) (isSigned : Bool) (text : String) : Int × List String :=
  match text.toList with
  | '\'' :: rest | '"' :: rest => (((rest.head?.map Char.toNat).getD 0 : Nat), [])
  | cs =>
    match integerPart cs with
    | none =>
      if cs = [] && manner = .extendedShell then (0, [complaint manner text false])
      else if cs = [] then (0, [])
      else (0, [complaint manner text false])
    | some (n, rest) =>
      let greatest : Int := if isSigned then (twoTo 63 : Int) - 1 else (twoTo 64 : Int) - 1
      let least : Int := if isSigned then -(twoTo 63 : Int) else -greatest
      let clamped := max least (min n greatest)
      let clamped := if isSigned then clamped else clamped % (twoTo 64 : Int)
      if rest ≠ [] then (clamped, [complaint manner text true])
      else if n < least || greatest < n then
        let heading := match manner with
          | .extendedShell => "warning: " ++ text
          | .plainShell => text
          | .program => "'" ++ text ++ "'"
        (clamped, [heading ++ ": Numerical result out of range"])
      else (clamped, [])

/-- The binary64 number that an argument stands for. -/
def real (manner : Manner) (text : String) : Binary64 × List String :=
  match text.toList with
  | '\'' :: rest | '"' :: rest => (.ofNat ((rest.head?.map Char.toNat).getD 0), [])
  | cs =>
    let cs := cs.dropWhile fun c => c = ' ' || c = '\t' || c = '\n'
    let found := (List.range (cs.length + 1)).reverse.findSome? fun n =>
      (Binary64.read? (cs.take n)).map fun x => (x, cs.drop n)
    match found with
    | none => (.ofNat 0, if cs = [] then [] else [complaint manner text false])
    | some (x, []) => (x, [])
    | some (x, _) => (x, [complaint manner text true])

/-! ### Conversions -/

/-- Fill a text up to a width; zeros go behind the sign. -/
def fill (conversion : Conversion) (isNumber : Bool) (sign body : List Char) : List Char :=
  let length := sign.length + body.length
  let missing := conversion.width - length
  if conversion.flags.contains '-' then sign ++ body ++ List.replicate missing ' '
  else if conversion.flags.contains '0' && isNumber then
    sign ++ List.replicate missing '0' ++ body
  else List.replicate missing ' ' ++ sign ++ body

def signOf (conversion : Conversion) (isNegative : Bool) : List Char :=
  if isNegative then ['-']
  else if conversion.flags.contains '+' then ['+']
  else if conversion.flags.contains ' ' then [' ']
  else []

/-- The text of a whole number. -/
def ofInteger (conversion : Conversion) (n : Int) : List Char :=
  let base := match conversion.letter with
    | 'o' => 8
    | 'x' | 'X' => 16
    | _ => 10
  let digits := Nat.toDigits base n.natAbs
  let digits := if conversion.letter = 'X' then digits.map Char.toUpper else digits
  let digits := match conversion.precision with
    | some 0 => if n = 0 then [] else digits
    | some least => digits.leftpad least '0'
    | none => digits
  let mark := if conversion.flags.contains '#' && n ≠ 0 then
      match conversion.letter with
      | 'o' => ['0']
      | 'x' => ['0', 'x']
      | 'X' => ['0', 'X']
      | _ => []
    else []
  let isSigned := conversion.letter = 'd' || conversion.letter = 'i'
  let sign := if isSigned then signOf conversion (n < 0) else []
  fill conversion conversion.precision.isNone (sign ++ mark) digits

/-- A number of digits behind the point as a text, from the value times a power of ten. -/
def withPoint (places : Nat) (scaled : Nat) (isMarked : Bool) : List Char :=
  let digits := (Text.digits scaled).leftpad (places + 1) '0'
  let whole := digits.take (digits.length - places)
  let fraction := digits.drop (digits.length - places)
  if places = 0 then (if isMarked then whole ++ ['.'] else whole) else whole ++ '.' :: fraction

/-- A positive number as a fraction. -/
def ratio (x : Binary64) : Nat × Nat :=
  if 0 ≤ x.exponent then (x.significand * twoTo x.exponent.toNat, 1)
  else (x.significand, twoTo (-x.exponent).toNat)

/-- The digits of a number with so many of them behind the first, and the exponent of ten. -/
def scientific (x : Binary64) (places : Nat) : Nat × Int :=
  let (num, den) := ratio x
  if num = 0 then (0, 0) else
  let scaled (exponent : Int) : Nat :=
    let shift : Int := places - exponent
    if 0 ≤ shift then Binary64.roundQuotient (num * tenTo shift.toNat) den
    else Binary64.roundQuotient num (den * tenTo (-shift).toNat)
  let guess : Int := (Text.digits (num / den)).length - 1
  let lower : Int := if den ≤ num then guess
    else -(((List.range 330).find? fun k => den ≤ num * tenTo k).getD 330 : Nat)
  let digits := scaled lower
  if tenTo (places + 1) ≤ digits then (scaled (lower + 1), lower + 1) else (digits, lower)

/-- The exponent of a number in its text. -/
def exponentText (letter : Char) (exponent : Int) : List Char :=
  letter :: (if exponent < 0 then '-' else '+') :: (Text.digits exponent.natAbs).leftpad 2 '0'

/-- The text of a binary64 number. -/
def ofReal (conversion : Conversion) (x : Binary64) : List Char :=
  let sign := signOf conversion x.isNegative
  let isMarked := conversion.flags.contains '#'
  let isUpper := conversion.letter.isUpper
  let places := conversion.precision.getD 6
  if !x.isFinite then
    let word := if x.isNaN then "nan" else "inf"
    let word := if isUpper then word.toUpper else word
    fill { conversion with flags := conversion.flags.filter (· ≠ '0') } false sign word.toList
  else
    let fixed (places : Nat) : List Char :=
      let (num, den) := ratio x
      withPoint places (Binary64.roundQuotient (num * tenTo places) den) isMarked
    let raised (places : Nat) : List Char :=
      let (digits, exponent) := scientific x places
      withPoint places digits isMarked ++ exponentText (if isUpper then 'E' else 'e') exponent
    let body := match conversion.letter with
      | 'f' | 'F' => fixed places
      | 'e' | 'E' => raised places
      | _ =>
        let significant := max 1 places
        let (_, exponent) := scientific x (significant - 1)
        let stripped (cs : List Char) : List Char :=
          if isMarked || !cs.contains '.' then cs
          else
            let cs := (cs.reverse.dropWhile (· = '0'))
            (if cs.head? = some '.' then cs.drop 1 else cs).reverse
        if exponent < -4 || (significant : Int) ≤ exponent then
          let (digits, exponent) := scientific x (significant - 1)
          stripped (withPoint (significant - 1) digits isMarked)
            ++ exponentText (if isUpper then 'E' else 'e') exponent
        else stripped (fixed ((significant : Int) - 1 - exponent).toNat)
    fill conversion true sign body

/-- A text that a shell reads back as it is. -/
def quoted (cs : List Char) : List Char :=
  let isPlain (c : Char) : Bool :=
    c.isAlphanum || "_-./:=@%+,".toList.contains c
  if cs = [] then ['\'', '\'']
  else cs.flatMap fun c => if isPlain c then [c] else ['\\', c]

/-! ### Formats -/

/-- Take the next argument. -/
def take (printed : Printed) : String × Printed :=
  (printed.arguments.headD "", { printed with arguments := printed.arguments.drop 1 })

def complain (printed : Printed) (complaints : List String) : Printed :=
  if complaints.isEmpty then printed
  else { printed with complaints := printed.complaints ++ complaints, status := 1 }

def put (printed : Printed) (cs : List Char) : Printed :=
  { printed with out := cs.reverseAux printed.out }

/-- A number in a format: digits, or a star for an argument. -/
def count (manner : Manner) (cs : List Char) (printed : Printed) :
    Option Int × List Char × Printed :=
  match cs with
  | '*' :: rest =>
    let (text, printed) := take printed
    let (n, complaints) := integer manner true text
    (some n, rest, complain printed complaints)
  | cs =>
    let ds := cs.takeWhile Char.isDigit
    ((Text.natural? ds).map Int.ofNat, cs.drop ds.length, printed)

/-- Why a conversion is none. -/
def invalid (manner : Manner) (text : List Char) : String :=
  match manner with
  | .plainShell =>
    if text.getLast?.any fun c => c.isAlpha || !"%#-+ 0123456789.*".toList.contains c then
      String.ofList text ++ ": invalid directive"
    else if 1 < text.length && text.getLast? = some '%' then
      String.ofList text ++ ": invalid directive"
    else "missing format character"
  | .extendedShell =>
    match text.getLast? with
    | some c => if 1 < text.length && (c.isAlpha || c = '%') then
        "\x60" ++ String.singleton c ++ "': invalid format character"
      else "\x60" ++ String.ofList text ++ "': missing format character"
    | none => ""
  | .program => "'" ++ String.ofList text ++ "': invalid conversion specification"

/-- Put out the conversion behind a percent sign. -/
def convert (manner : Manner) (cs : List Char) (printed : Printed) : List Char × Printed :=
  let flags := cs.takeWhile "#-+ 0".toList.contains
  let (width, rest, printed) := count manner (cs.drop flags.length) printed
  let (precision, rest, printed) := match rest with
    | '.' :: rest =>
      let (n, rest, printed) := count manner rest printed
      (some (n.getD 0), rest, printed)
    | rest => (none, rest, printed)
  let rest := if manner = .plainShell then rest
    else rest.dropWhile fun c => c = 'l' || c = 'h' || c = 'j' || c = 'z' || c = 't' || c = 'L'
  let flags := if width.any (· < 0) then '-' :: flags else flags
  let failed (rest : List Char) : List Char × Printed :=
    let text := '%' :: cs.take (cs.length - rest.length)
    let status := if manner = .plainShell then 2 else 1
    ([], { printed with
      complaints := printed.complaints ++ [invalid manner text], status, isOver := true })
  match rest with
  | [] => failed []
  | letter :: rest =>
    let conversion : Conversion :=
      ⟨flags, (width.getD 0).natAbs, precision.bind fun n => if n < 0 then none else some n.toNat,
        letter⟩
    let cut (cs : List Char) : List Char :=
      match conversion.precision with
      | some n => cs.take n
      | none => cs
    let hasArgument := !printed.arguments.isEmpty
    if letter = 's' || letter = 'q' && manner ≠ .plainShell then
      let (text, printed) := take printed
      let cs := if letter = 'q' then quoted text.toList else text.toList
      (rest, put printed (fill conversion false [] (cut cs)))
    else if letter = 'b' then
      let (text, printed) := take printed
      let (cs, isOver) := Escape.replace manner text.length text.toList
      (rest, { put printed (fill conversion false [] (cut cs)) with isOver })
    else if letter = 'c' then
      let (text, printed) := take printed
      let c := match text.toList with
        | [] => if manner = .program && !hasArgument then [] else ['\x00']
        | c :: _ => [c]
      (rest, put printed (fill conversion false [] c))
    else if ['d', 'i', 'o', 'u', 'x', 'X'].contains letter then
      let (text, after) := take printed
      let isSigned := letter = 'd' || letter = 'i'
      let (n, complaints) := if hasArgument then integer manner isSigned text else (0, [])
      (rest, put (complain after complaints) (ofInteger conversion n))
    else if ['e', 'E', 'f', 'F', 'g', 'G'].contains letter then
      let (text, after) := take printed
      let (x, complaints) := if hasArgument then real manner text else (.ofNat 0, [])
      (rest, put (complain after complaints) (ofReal conversion x))
    else failed rest

/-- Put out a format once; every step takes at least one character. -/
def once (manner : Manner) : (fuel : Nat) → List Char → Printed → Printed
  | 0, _, printed => printed
  | _, [], printed => printed
  | fuel + 1, '\\' :: rest, printed =>
    if manner = .program && rest.head? = some 'c' then { printed with isOver := true }
    else match Escape.inFormat? manner rest with
      | some (c, rest) => once manner fuel rest (put printed [c])
      | none => once manner fuel rest (put printed ['\\'])
  | fuel + 1, '%' :: '%' :: rest, printed => once manner fuel rest (put printed ['%'])
  | fuel + 1, '%' :: rest, printed =>
    let (rest, printed) := convert manner rest printed
    if printed.isOver then printed else once manner fuel rest printed
  | fuel + 1, c :: rest, printed =>
    let plain := c :: rest.takeWhile fun c => c ≠ '%' && c ≠ '\\'
    once manner fuel ((c :: rest).drop plain.length) (put printed plain)

/-- Put out a format until all arguments are used. -/
def all (manner : Manner) (format : List Char) : (fuel : Nat) → Printed → Printed
  | 0, printed => printed
  | fuel + 1, printed =>
    let before := printed.arguments.length
    let printed := once manner (format.length + 1) format printed
    if printed.isOver || printed.arguments.isEmpty || printed.arguments.length = before then printed
    else all manner format fuel printed

/-- Print arguments by the format in front of them. -/
def run (manner : Manner) (arguments : List String) : Printed :=
  let arguments := if arguments.head? = some "--" then arguments.drop 1 else arguments
  match arguments with
  | format :: rest => all manner format.toList (rest.length + 1) { arguments := rest }
  | [] =>
    let usage := match manner with
      | .plainShell => "usage: printf format [arg ...]"
      | .extendedShell => "usage: printf [-v var] format [arguments]"
      | .program => "missing operand\nTry 'printf --help' for more information."
    { arguments := [], complaints := [usage], status := if manner = .program then 1 else 2 }

end TrackSelect.Utility.Printf
