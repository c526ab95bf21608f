import TrackSelect.Machine.Shell.Arithmetic
import TrackSelect.Machine.Shell.Builtin.Basic

/-!
# Commands for variables, arguments and switches
-/

namespace TrackSelect.Shell.Builtin

/-- The name of a variable in an argument has to be one. -/
def checkName (name : String) : Act Unit := do
  if !isName name.toList then
    if ← Act.isPlain then Act.fail (name ++ ": bad variable name")
    else
      Act.complain ("\x60" ++ name ++ "': not a valid identifier")
      throw (.fails 1)

/-- How a variable is written so that a shell reads it back. -/
def written (isPlain : Bool) (word : String) (name : String) (held : Variable) : String :=
  let word := if isPlain then word ++ " "
    else "declare -" ++ (if held.isReadOnly then "r" else "") ++
      (if held.isExported then "x" else "") ++
      (if held.isReadOnly || held.isExported then " " else "- ")
  match Variable.text? held with
  | some text =>
    word ++ name ++ "=" ++ (if isPlain then quoted text else "\"" ++ text ++ "\"") ++ "\n"
  | none => word ++ name ++ "\n"

/-- Mark variables, or list those that are marked. -/
def mark (isMarked : Variable → Bool) (change : Variable → Variable) : Builtin :=
    fun name arguments => do
  let isPlain ← Act.isPlain
  let (found, arguments) ← options ['p', 'n', 'f', 'a', 'A'] [] arguments
  if arguments.isEmpty then
    let listed := (← get).bindings.filter fun entry => isMarked entry.2
    put name (String.join (listed.map fun entry => written isPlain name entry.1 entry.2))
  else
    for argument in arguments do
      let (target, value) := splitSetting argument
      checkName target
      match value with
      | some value => Act.setVariable target value
      | none => pure ()
      let held := (← Act.named? target).getD { holding := .nothing }
      Act.putVariable target <|
        if found.contains 'n' then { held with isExported := false } else change held
    return 0

def exportVariables : Builtin := mark (·.isExported) fun held => { held with isExported := true }

def protectVariables : Builtin := mark (·.isReadOnly) fun held => { held with isReadOnly := true }

/-- Forget variables or functions. -/
def unset : Builtin := fun _ arguments => do
  let (found, arguments) ← options ['f', 'v', 'n'] [] arguments
  for argument in arguments do
    if found.contains 'f' then
      modify fun state => { state with
        functions := state.functions.filter (·.1 ≠ argument) }
    else
      let name := String.ofList (argument.toList.takeWhile (· ≠ '['))
      if name.length < argument.length then
        let index := (argument.toList.drop (name.length + 1)).dropLast
        match (← Act.named? name).map Variable.holding with
        | some (.elements items) =>
          let n ← Arithmetic.evaluate index
          Act.hold name (.elements (items.filter (·.1 ≠ n.toNat)))
        | some (.table items) =>
          Act.hold name (.table (items.filter (·.1 ≠ String.ofList index)))
        | _ => pure ()
      else
        if ← Act.isPlain then checkName name
        match ← Act.named? name with
        | some held =>
          if held.isReadOnly then
            if ← Act.isPlain then Act.fail (name ++ ": is read only")
            else
              Act.complain (name ++ ": cannot unset: readonly variable")
              throw (.fails 1)
          Act.dropVariable name
        | none =>
          if !(← Act.isPlain) then
            modify fun state => { state with functions := state.functions.filter (·.1 ≠ name) }
  return 0

/-- Make variables local to the present function. -/
def localVariables : Builtin := fun _ arguments => do
  if (← get).functionDepth = 0 then
    if ← Act.isPlain then Act.fail "not in a function"
    return ← refuse 1 "can only be used in a function"
  for argument in arguments do
    let (name, value) := splitSetting argument
    if name = "-" then pure ()
    else
      checkName name
      Act.makeLocal name
      match value with
      | some value => Act.setVariable name value
      | none => if !(← Act.isPlain) then Act.dropVariable name
  return 0

/-- Declare variables with options. -/
def declare : Builtin := fun name arguments => do
  let signs := arguments.takeWhile fun argument =>
    argument.length > 1 && (argument.toList.head? = some '-' || argument.toList.head? = some '+')
  let letters := (signs.filter (·.toList.head? = some '-')).flatMap fun sign => sign.toList.drop 1
  let removed := (signs.filter (·.toList.head? = some '+')).flatMap fun sign => sign.toList.drop 1
  let arguments := arguments.drop signs.length
  if letters.contains 'p' || arguments.isEmpty then
    let state ← get
    if letters.contains 'F' || letters.contains 'f' then
      return ← put name (String.join ((Keyed.keys state.functions).map fun f =>
        "declare -f " ++ f ++ "\n"))
    let listed := if arguments.isEmpty then state.bindings
      else state.bindings.filter fun entry => arguments.contains entry.1
    let status ← put name (String.join (listed.map fun entry =>
      written false name entry.1 entry.2))
    let missing := arguments.filter fun a => !(listed.any (·.1 = a))
    for a in missing do Act.complain (a ++ ": not found")
    return if missing.isEmpty then status else 1
  if letters.contains 'f' || letters.contains 'F' then
    let known := (← get).functions
    return if arguments.all fun a => (Keyed.get? a known).isSome then 0 else 1
  for argument in arguments do
    let (target, value) := splitSetting argument
    let adds := target.endsWith "+"
    let target := if adds then String.ofList target.toList.dropLast else target
    checkName target
    if 0 < (← get).functionDepth && !letters.contains 'g' then
      Act.makeLocal target
      if value.isNone then Act.dropVariable target
    let held := (← Act.named? target).getD { holding := .nothing }
    let holding := match held.holding with
      | .nothing =>
        if letters.contains 'A' then .table []
        else if letters.contains 'a' then .elements []
        else .nothing
      | holding => holding
    Act.putVariable target { held with
      holding
      isInteger := (held.isInteger || letters.contains 'i') && !removed.contains 'i'
      isExported := (held.isExported || letters.contains 'x') && !removed.contains 'x' }
    match value with
    | some value =>
      let held? ← Act.value? target
      let old := if adds then held?.getD "" else ""
      if letters.contains 'i' || held.isInteger then
        Act.setVariable target (toString (← Arithmetic.evaluate (old ++ value).toList))
      else Act.setVariable target (old ++ value)
    | none => pure ()
    if letters.contains 'r' then
      let held := (← Act.named? target).getD { holding := .nothing }
      Act.putVariable target { held with isReadOnly := true }
  return 0

/-- Evaluate expressions; the status says whether the last one is not zero. -/
def evaluateAll : Builtin := fun _ arguments => do
  let mut last : Int := 0
  for argument in arguments do
    last ← Arithmetic.evaluate argument.toList
  return if last = 0 then 1 else 0

/-- Drop some arguments of the script. -/
def shift : Builtin := fun _ arguments => do
  let n ← match arguments with
    | [] => pure 1
    | argument :: _ => number argument
  if (← get).arguments.length < n then
    if ← Act.isPlain then Act.fail "can't shift that many"
    return 1
  modify fun state => { state with arguments := state.arguments.drop n }
  return 0

/-- Turn switches on or off by their letters. -/
def turnLetters (isOn : Bool) : List Char → Act Unit
  | [] => pure ()
  | letter :: rest => do
    match Switch.ofLetter? letter with
    | some switch => Act.turn switch isOn
    | none =>
      if !"bhmsiBEHTIVq".toList.contains letter then
        Act.fail ("Illegal option " ++ (if isOn then "-" else "+") ++ String.singleton letter)
    turnLetters isOn rest

/-- The switches and whether they are on. -/
def listSwitches : Act Nat := do
  let state ← get
  let lines := Switch.all.map fun (switch, _, name) =>
    name ++ String.ofList (List.replicate (16 - name.length) ' ') ++
      (if state.switches.contains switch then "on" else "off") ++ "\n"
  put "set" ("Current option settings\n" ++ String.join lines)

/-- Turn switches on or off, and set the arguments of the script. -/
def setArguments : (fuel : Nat) → List String → Act Nat
  | 0, _ => return 0
  | _, [] => return 0
  | fuel + 1, argument :: rest => do
    let arguments (given : List String) : Act Nat := do
      modify fun state => { state with arguments := given }
      return 0
    match argument.toList, rest with
    | ['-', '-'], rest => arguments rest
    | ['-'], rest => if rest.isEmpty then return 0 else arguments rest
    | ['-', 'o'], [] | ['+', 'o'], [] => listSwitches
    | '-' :: letters, rest => switches fuel true letters rest
    | '+' :: letters, rest => switches fuel false letters rest
    | _, rest => arguments (argument :: rest)
where
  switches (fuel : Nat) (isOn : Bool) (letters : List Char) (rest : List String) : Act Nat := do
    turnLetters isOn (letters.filter (· ≠ 'o'))
    if !letters.contains 'o' then return ← setArguments fuel rest
    match rest with
    | [] => listSwitches
    | name :: rest =>
      match Switch.ofName? (← get).dialect name with
      | some switch => Act.turn switch isOn
      | none =>
        if !(["monitor", "vi", "emacs", "posix", "ignoreeof", "notify", "nolog", "hashall",
            "history", "physical", "errtrace", "functrace", "braceexpand"].contains name) then
          Act.fail ("Illegal option -o " ++ name)
      setArguments fuel rest

/-- Change switches and arguments, or list the variables. -/
def configure : Builtin := fun name arguments => do
  if arguments.isEmpty then
    let isPlain ← Act.isPlain
    let lines := (← get).bindings.filterMap fun (target, held) =>
      (Variable.text? held).map fun text =>
        target ++ "=" ++ (if isPlain then quoted text else text) ++ "\n"
    put name (String.join lines)
  else setArguments (arguments.length + 1) arguments

/-- Go through the options of arguments, one at a time. -/
def getopts : Builtin := fun _ arguments => do
  match arguments with
  | letters :: target :: given =>
    let state ← get
    let given := if given.isEmpty then state.arguments else given
    let position := (((← Act.value? "OPTIND").bind fun text => Text.natural? text.toList).getD 1)
    let taken := state.optionsTaken
    let isSilent := letters.toList.head? = some ':'
    let finish (status position taken : Nat) (found : String) (argument : Option String) :
        Act Nat := do
      match argument with
      | some text => Act.setVariable "OPTARG" text
      | none => Act.dropVariable "OPTARG"
      Act.setVariable target found
      Act.setVariable "OPTIND" (toString position)
      modify fun state => { state with optionsTaken := taken }
      return status
    let argument := (given[position - 1]?).getD ""
    match argument.toList with
    | '-' :: c :: cs =>
      if c = '-' && cs = [] then return ← finish 1 (position + 1) 0 "?" none
      let options := c :: cs
      match options.drop taken with
      | [] => finish 1 position 0 "?" none
      | letter :: rest =>
        let after := if rest.isEmpty then (position + 1, 0) else (position, taken + 1)
        let wanted := if letter = ':' then none else letters.toList.idxOf? letter
        match wanted with
        | none =>
          if isSilent then finish 0 after.1 after.2 "?" (some (String.singleton letter))
          else
            let message := if state.dialect = .plain then "Illegal option -"
              else state.name ++ ": illegal option -- "
            Act.write 2 (message ++ String.singleton letter ++ "\n")
            finish 0 after.1 after.2 "?" none
        | some place =>
          if letters.toList[place + 1]? ≠ some ':' then
            finish 0 after.1 after.2 (String.singleton letter) none
          else if !rest.isEmpty then
            finish 0 (position + 1) 0 (String.singleton letter) (some (String.ofList rest))
          else match given[position]? with
            | some text => finish 0 (position + 2) 0 (String.singleton letter) (some text)
            | none =>
              if isSilent then finish 0 (position + 1) 0 ":" (some (String.singleton letter))
              else
                let message := if state.dialect = .plain then
                    "No arg for -" ++ String.singleton letter ++ " option"
                  else state.name ++ ": option requires an argument -- " ++ String.singleton letter
                Act.write 2 (message ++ "\n")
                finish 0 (position + 1) 0 "?" none
    | _ => finish 1 position 0 "?" none
  | _ => Act.fail "Usage: getopts optstring var [arg]"

end TrackSelect.Shell.Builtin
