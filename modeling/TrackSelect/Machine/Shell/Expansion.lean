import TrackSelect.Machine.Shell.Arithmetic
import TrackSelect.Machine.Shell.Braces
import TrackSelect.Machine.Shell.Pattern

/-!
# What words stand for

A word stands for a text or, where words are split, for several: its parameters, scripts and
expressions are replaced by what they give, that is split at separators, and patterns are replaced
by the paths that they fit.
-/

namespace TrackSelect.Shell.Expansion

open TrackSelect.System (Program)

/-- A part of what a word stands for. -/
inductive Part where
  | char (c : Char) (isQuoted isSplit : Bool)
  /-- The end of a field. -/
  | gap
  /-- Quotes with nothing between them, which make a field all the same. -/
  | quotes
deriving DecidableEq, Repr

/-- How a word is used. -/
structure Usage where
  /-- Whether it may stand for several texts. -/
  splits : Bool
  /-- Whether a tilde also has its meaning behind a colon. -/
  isSetting : Bool := false
  /-- Whether it stands inside of a parameter, where plain characters are split too. -/
  isInner : Bool := false

/-- How scripts inside of words are run: for their output, or for a path to a pipe. -/
structure Others where
  output : Script → Act (List Char)
  channel : (reads : Bool) → Script → Act (List Char)

/-! ### Parts -/

/-- The parts of a text. -/
def ofText (isQuoted : Bool) (cs : List Char) : List Part :=
  if isQuoted && cs = [] then [.quotes] else cs.map fun c => .char c isQuoted (!isQuoted)

/-- The characters of parts. -/
def text (parts : List Part) : List Char :=
  parts.filterMap fun
    | .char c _ _ => some c
    | .gap => some ' '
    | .quotes => none

/-- The marks of a pattern. -/
def marks (parts : List Part) : List Mark :=
  parts.filterMap fun
    | .char c isQuoted _ => some ⟨c, !isQuoted⟩
    | _ => none

/-- The folder that a tilde with a name stands for. -/
def home? (name : List Char) : Act (Option (List Char)) := do
  match name with
  | [] => return (← Act.value? "HOME").map String.toList
  | name => return if String.ofList name = "root" then some "/root".toList else none

/-- Replace a tilde at the start of a text, if the name behind it ends with the text only where a
word does. -/
def tilde (isWhole : Bool) (isSetting : Bool) (cs : List Char) : Act (List Char × List Char) := do
  match cs with
  | '~' :: rest =>
    let name := rest.takeWhile fun c => c ≠ '/' && !(isSetting && c = ':')
    let behind := rest.drop name.length
    if behind = [] && !isWhole then return ([], cs)
    match ← home? name with
    | some folder => return (folder, behind)
    | none => return ([], cs)
  | cs => return ([], cs)

/-- Replace the tildes in a text. -/
def tildes (isWhole isSetting : Bool) : (fuel : Nat) → List Char → Act (List Part)
  | 0, cs => return cs.map fun c => .char c false false
  | fuel + 1, cs => do
    let (folder, rest) ← tilde isWhole isSetting cs
    let first : List Part := folder.map fun c => .char c true false
    if !isSetting then return first ++ rest.map fun c => .char c false false
    let plain := rest.takeWhile (· ≠ ':')
    let plainParts : List Part := plain.map fun c => .char c false false
    match rest.drop plain.length with
    | [] => return first ++ plainParts
    | c :: more =>
      return first ++ plainParts ++ [.char c false false] ++ (← tildes isWhole isSetting fuel more)

/-! ### Values of parameters -/

/-- What a parameter holds: one text, or a list. -/
inductive Held where
  | one (text : Option String)
  | many (texts : List String) (isJoined : Bool)

/-- The elements of a variable. -/
def elementsOf : Option Variable → List String
  | none => []
  | some held =>
    match held.holding with
    | .nothing => []
    | .text text => [text]
    | .elements items => items.map (·.2)
    | .table items => items.map (·.2)

/-- The keys of the elements of a variable. -/
def keysOf : Option Variable → List String
  | none => []
  | some held =>
    match held.holding with
    | .nothing => []
    | .text _ => ["0"]
    | .elements items => items.map fun item => toString item.1
    | .table items => items.map (·.1)

/-- What stands between the elements of a list that is joined. -/
def between (isQuotedStar : Bool) : Act (List Char) := do
  if isQuotedStar || (← Act.isPlain) then Act.joint else return [' ']

/-- The parts of a list. -/
def ofList (usage : Usage) (isQuoted isJoined : Bool) (texts : List String) :
    Act (List Part) := do
  let texts := texts.map String.toList
  if usage.splits && !(isQuoted && isJoined) then
    return (texts.map (ofText isQuoted)).intersperse [.gap] |>.flatten
  else
    let joint ← between isJoined
    return ofText isQuoted (joint.intercalate texts)

/-- The text of a list. -/
def joined (texts : List String) : Act (List Char) := do
  return (← Act.joint).intercalate (texts.map String.toList)

/-! ### Changes of values -/

/-- The lengths of parts of a text that a pattern fits at its start, the longest one. -/
def longestAt (pattern : List Fit) (cs : List Char) : Option Nat :=
  (Pattern.prefixLengths pattern cs).getLast?

/-- A text with parts that a pattern fits replaced. -/
def replaced (pattern : List Fit) (other : List Char) (all : Bool) : (fuel : Nat) → List Char →
    List Char
  | 0, cs => cs
  | _, [] => []
  | fuel + 1, c :: cs =>
    match (longestAt pattern (c :: cs)).filter (0 < ·) with
    | some n =>
      let rest := (c :: cs).drop n
      other ++ if all then replaced pattern other all fuel rest else rest
    | none => c :: replaced pattern other all fuel cs

/-- The value of one text behind a change by patterns, positions or letters. -/
def changed (change : Change) (operands : List (List Part)) (numbers : List Int)
    (cs : List Char) : List Char :=
  let pattern := Pattern.ofMarks (marks (operands.headD []))
  match change with
  | .withoutStart longest => Pattern.dropStart longest pattern cs
  | .withoutEnd longest => Pattern.dropEnd longest pattern cs
  | .replace extent =>
    let other := text ((operands.drop 1).headD [])
    match extent with
    | .first => replaced pattern other false cs.length cs
    | .all => replaced pattern other true cs.length cs
    | .start =>
      match longestAt pattern cs with
      | some n => other ++ cs.drop n
      | none => cs
    | .finish =>
      match (List.range (cs.length + 1)).find? fun n => Pattern.matchesAll pattern (cs.drop n) with
      | some n => cs.take n ++ other
      | none => cs
  | .letters upper all =>
    let fits (c : Char) : Bool := pattern.isEmpty || Pattern.matchesAll pattern [c]
    let one (c : Char) : Char := if !fits c then c else if upper then c.toUpper else c.toLower
    if all then cs.map one
    else match cs with
      | [] => []
      | c :: rest => one c :: rest
  | .slice => slice numbers cs
  | .quote =>
    '\'' :: (cs.flatMap fun c => if c = '\'' then ['\'', '\\', '\'', '\''] else [c]) ++ ['\'']
  | _ => cs
where
  /-- Some elements from a position on; a negative number counts from the end. -/
  slice {α : Type} (numbers : List Int) (items : List α) : List α :=
    let start := numbers.headD 0
    let start := if start < 0 then start + items.length else start
    if start < 0 then []
    else
      let items := items.drop start.toNat
      match numbers[1]? with
      | none => items
      | some n => if n < 0 then items.take (items.length - n.natAbs) else items.take n.toNat

/-! ### Words -/

/-- Fail because a parameter is missing. -/
def missing {α : Type} (name : String) (orEmpty : Bool) (message : List Char) (isGiven : Bool) :
    Act α := do
  if isGiven && message ≠ [] then Act.fail (name ++ ": " ++ String.ofList message)
  else if ← Act.isPlain then
    Act.fail (name ++ ": parameter not set" ++ if isGiven && orEmpty then " or null" else "")
  else if isGiven then
    Act.fail (name ++ ": parameter " ++ if orEmpty then "null or not set" else "not set")
  else Act.fail (name ++ ": unbound variable")

/-- Set what a parameter stands for. -/
def assign (name : String) (index : Option (Nat ⊕ String)) (text : String) : Act Unit := do
  if !isName name.toList then
    if ← Act.isPlain then Act.fail (name ++ ": bad variable name")
    else Act.fail ("$" ++ name ++ ": cannot assign in this way")
  match index, (← Act.named? name).map Variable.holding with
  | none, _ => Act.setVariable name text
  | some (.inr key), some (.table items) => Act.hold name (.table (Act.putKeyed key text items))
  | some (.inr key), _ => Act.hold name (.table [(key, text)])
  | some (.inl n), some (.elements items) =>
    Act.hold name (.elements (Act.putElement n text items))
  | some (.inl n), some (.text first) =>
    Act.hold name (.elements (Act.putElement n text [(0, first)]))
  | some (.inl n), _ => Act.hold name (.elements [(n, text)])

/-- How the words inside of a word are replaced. -/
abbrev Inner := Usage → Word → Act (List Part)

/-- The text of a word that is not split. -/
def wholeOf (inner : Inner) (word : Word) : Act (List Char) := do
  return text (← inner { splits := false } word)

/-- The key or index of an element. -/
def keyOf (inner : Inner) (name : String) (index : Word) : Act (Nat ⊕ String) := do
  match (← Act.named? name).map Variable.holding with
  | some (.table _) => return .inr (String.ofList (← wholeOf inner index))
  | held =>
    let n ← Arithmetic.evaluate (← wholeOf inner index)
    let length : Int := match held with
      | some (.elements items) => (items.getLast?.map fun item => (item.1 : Int) + 1).getD 0
      | _ => 1
    return .inl (if n < 0 then (n + length).toNat else n.toNat)

/-- What a parameter holds. -/
def held (inner : Inner) (name : String) (index : Option Word) : Act Held := do
  match name, index with
  | "@", _ => return .many (← get).arguments false
  | "*", _ => return .many (← get).arguments true
  | name, some [.text _ ['@']] => return .many (elementsOf (← Act.named? name)) false
  | name, some [.text _ ['*']] => return .many (elementsOf (← Act.named? name)) true
  | name, some index => do
    let key ← keyOf inner name index
    let held := (← Act.named? name).map Variable.holding
    return .one <| match key, held with
      | .inr key, some (.table items) => items.lookup key
      | .inl n, some (.elements items) => items.lookup n
      | .inl 0, some (.text text) => some text
      | _, _ => none
  | name, none => return .one (← Act.parameter? name)

/-- The parts of a parameter. -/
def parameter (inner : Inner) (usage : Usage) (isQuoted : Bool) (name : String)
    (index : Option Word) (change : Change) (operands : List Word) : Act (List Part) := do
  let isPlain ← Act.isPlain
  if change = .bad then
    if isPlain then Act.fail "Bad substitution" else Act.fail "bad substitution"
  let value ← held inner name index
  let (isMissing, isEmpty) := match value with
    | .one none => (true, true)
    | .one (some text) => (false, text = "")
    | .many texts _ => (texts.isEmpty, texts.all (· = ""))
  let lacks (orEmpty : Bool) : Bool := isMissing || (orEmpty && isEmpty)
  let operand : Act (List Part) := do
    let parts ← inner { splits := usage.splits, isInner := !isQuoted } (operands.headD [])
    return if isQuoted && parts.isEmpty then [.quotes] else parts
  let operandText : Act (List Char) := wholeOf inner (operands.headD [])
  let ofOne (text : Option String) (f : List Char → List Char) : Act (List Part) := do
    if text.isNone && (← Act.has .refusesUnset) then missing name false [] false
    return ofText isQuoted (f (text.getD "").toList)
  let plain : Act (List Part) := do
    match value with
    | .one text => ofOne text id
    | .many texts isJoined => ofList usage isQuoted isJoined texts
  match change with
  | .keep => plain
  | .default orEmpty => if lacks orEmpty then operand else plain
  | .instead orEmpty =>
    if lacks orEmpty then return if isQuoted then [.quotes] else [] else operand
  | .assign orEmpty =>
    if lacks orEmpty then
      let text ← operandText
      let index ← match index with
        | some index => do pure (some (← keyOf inner name index))
        | none => pure none
      assign name index (String.ofList text)
      return ofText isQuoted text
    else plain
  | .require orEmpty =>
    if lacks orEmpty then missing name orEmpty (← operandText) true else plain
  | .count =>
    match value with
    | .one text => ofOne text fun cs => Text.digits cs.length
    | .many texts _ =>
      if isPlain then return ofText isQuoted (Text.digits (← joined texts).length)
      else return ofText isQuoted (Text.digits texts.length)
  | .indirect =>
    match value with
    | .one (some target) =>
      match operands with
      | [[.parameter _ _ _ change operands]] =>
        inner usage [.parameter isQuoted target none change operands]
      | _ => inner usage [.parameter isQuoted target none .keep []]
    | _ => Act.fail (name ++ ": invalid indirect expansion")
  | .indices =>
    let isJoined := match value with
      | .many _ isJoined => isJoined
      | _ => false
    ofList usage isQuoted isJoined (keysOf (← Act.named? name))
  | .names =>
    let names := (Keyed.keys (← get).bindings).filter (name.toList.isPrefixOf ·.toList)
    ofList usage isQuoted false names
  | change =>
    let changes ← operands.mapM (inner { splits := false })
    let numbers ← if change = .slice then
        changes.mapM fun parts => Arithmetic.evaluate (text parts)
      else pure []
    match value with
    | .one text => ofOne text (changed change changes numbers)
    | .many texts isJoined =>
      if change = .slice then
        let first := (← get).name
        let texts := if name = "@" || name = "*" then first :: texts else texts
        ofList usage isQuoted isJoined (changed.slice numbers texts)
      else if isPlain then
        return ofText isQuoted (changed change changes numbers (← joined texts))
      else
        ofList usage isQuoted isJoined
          (texts.map fun text => String.ofList (changed change changes numbers text.toList))

/-- The parts of a piece. -/
def piece (others : Others) (inner : Inner) (usage : Usage) : Piece → Act (List Part)
  | .text true cs => return ofText true cs
  | .text false cs =>
    match usage.isSetting && cs.contains '~', cs.dropWhile (· ≠ ':') with
    | true, c :: rest => do
      let plain := cs.takeWhile (· ≠ ':') ++ [c]
      return (plain.map fun c => Part.char c false false) ++ (← tildes true true rest.length rest)
    | _, _ => return cs.map fun c => .char c false usage.isInner
  | .output isQuoted body => do return ofText isQuoted (← others.output body)
  | .number isQuoted expression => do
    let n ← Arithmetic.evaluate (← wholeOf inner expression)
    return ofText isQuoted (toString n).toList
  | .channel reads body => do
    return (← others.channel reads body).map fun c => .char c false false
  | .here number => do
    match (← get).texts.lookup number with
    | some word => inner { splits := false } word
    | none => return []
  | .parameter isQuoted name index change operands =>
    parameter inner usage isQuoted name index change operands

/-- The parts that a word stands for, given how the words inside of it are replaced. -/
def partsWith (others : Others) (inner : Inner) (usage : Usage) (word : Word) :
    Act (List Part) := do
  match word with
  | .text false cs :: rest =>
    let first ← if cs.contains '~' && !usage.isInner then
        tildes rest.isEmpty usage.isSetting (cs.length + 1) cs
      else pure (cs.map fun c => Part.char c false usage.isInner)
    return first ++ (← rest.mapM (piece others inner usage)).flatten
  | word => return (← word.mapM (piece others inner usage)).flatten

/-- The parts that a word stands for, before it is split; `fuel` bounds how deep words are inside
of one another. -/
def parts (others : Others) : (fuel : Nat) → Usage → Word → Act (List Part)
  | 0, _, _ => Act.fail "expansion too deep"
  | fuel + 1, usage, word => partsWith others (parts others fuel) usage word

/-! ### Fields -/

/-- What is known while fields are made: the fields so far and the marks of the present one, in
reverse order, and whether a separator that is no blank would end the last field. -/
structure Splitting where
  fields : List (List Mark) := []
  current : Option (List Mark) := none
  isAfterBlank : Bool := false

namespace Splitting

/-- End the present field, if there is one. -/
def close (state : Splitting) (isAfterBlank : Bool) : Splitting :=
  match state.current with
  | some marks => ⟨marks.reverse :: state.fields, none, isAfterBlank⟩
  | none => state

/-- Take in a part. -/
def add (separators : List Char) (state : Splitting) : Part → Splitting
  | .gap => { state.close false with isAfterBlank := false }
  | .quotes => { state with current := some (state.current.getD []) }
  | .char c isQuoted isSplit =>
    if !isSplit || !separators.contains c then
      { state with current := some (⟨c, !isQuoted⟩ :: state.current.getD []), isAfterBlank := false }
    else if c = ' ' || c = '\t' || c = '\n' then state.close true
    else match state.current with
      | some _ => state.close false
      | none =>
        if state.isAfterBlank then { state with isAfterBlank := false }
        else { state with fields := [] :: state.fields }

end Splitting

/-- The fields of parts. -/
def fields (separators : List Char) (parts : List Part) : List (List Mark) :=
  ((parts.foldl (Splitting.add separators) {}).close false).fields.reverse

/-! ### Paths -/

/-- Whether marks may fit more than one text. -/
def isPattern (marks : List Mark) : Bool :=
  marks.any fun mark =>
    mark.isActive && (mark.char = '*' || mark.char = '?' || mark.char = '[')

def markText (marks : List Mark) : String := String.ofList (marks.map Mark.char)

/-- The names in a folder that a pattern fits. Names that start with a dot are fitted only by
patterns that do. -/
def namesAt (folder : String) (pattern : List Mark) : Act (List String) := do
  match ← Act.ask (.list (if folder = "" then "." else folder)) with
  | .error _ => return []
  | .ok names =>
    let showsHidden := (pattern.head?.map Mark.char) = some '.'
    let names := if showsHidden then "." :: ".." :: names else names
    let fits := Pattern.ofMarks pattern
    let found := names.filter fun name =>
      (showsHidden || name.toList.head? ≠ some '.') && Pattern.matchesAll fits name.toList
    return found.mergeSort fun a b => a ≤ b

/-- The paths that patterns for the names on the way fit, behind a folder. -/
def pathsAt (folder : String) : List (List Mark) → Act (List String)
  | [] => return [folder]
  | marks :: rest => do
    let behind := if rest.isEmpty then "" else "/"
    if marks.isEmpty then pathsAt (folder ++ behind) rest
    else if isPattern marks then
      let names ← namesAt folder marks
      let names ← names.filterM fun name => do
        if rest.isEmpty then return true
        match ← Act.ask (.inspect (folder ++ name)) with
        | .ok facts => return facts.kind = .folder
        | .error _ => return false
      return (← names.mapM fun name => pathsAt (folder ++ name ++ behind) rest).flatten
    else
      let path := folder ++ markText marks
      match ← Act.ask (.inspect path) with
      | .ok _ => pathsAt (path ++ behind) rest
      | .error _ => return []

/-- The paths that a pattern fits; the pattern itself if there are none. -/
def paths (marks : List Mark) : Act (List String) := do
  if !isPattern marks || (← Act.has .keepsPatterns) then return [markText marks]
  match ← pathsAt "" (splitNames marks) with
  | [] => return [markText marks]
  | found => return found
where
  splitNames (marks : List Mark) : List (List Mark) :=
    (marks.splitOnP fun mark => mark.char = '/')

/-! ### Uses of words -/

/-- The texts that a word stands for. -/
def texts (others : Others) (word : Word) : Act (List String) := do
  let words := if ← Act.isPlain then [word] else Braces.expand word
  let found ← words.mapM fun word => do
    let parts ← parts others Program.patience { splits := true } word
    (fields (← Act.separators) parts).mapM paths
  return found.flatten.flatten

/-- The text that a word stands for. -/
def whole (others : Others) (word : Word) : Act String := do
  return String.ofList (text (← parts others Program.patience { splits := false } word))

/-- The text that a variable is set to. -/
def setting (others : Others) (word : Word) : Act String := do
  let usage : Usage := { splits := false, isSetting := true }
  return String.ofList (text (← parts others Program.patience usage word))

/-- The pattern that a word stands for. -/
def pattern (others : Others) (word : Word) : Act (List Mark) := do
  return marks (← parts others Program.patience { splits := false } word)

end TrackSelect.Shell.Expansion
