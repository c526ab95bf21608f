import TrackSelect.Machine.Shell.Expansion

/-!
# Redirections

A redirection lets a channel mean something else, for one command or for good. What the channel
meant before is kept on a descriptor with a high number.
-/

namespace TrackSelect.Shell.Redirecting

open TrackSelect.System (Program Mode)

/-- A redirected channel, and the descriptor that keeps what it meant, if it meant anything. -/
structure Saved where
  channel : Nat
  kept : Option Nat

/-- A redirection with its target as a text. -/
structure Target where
  channel : Nat
  how : Redirection
  text : String

/-- Replace what stands in the targets of redirections. -/
def targets (others : Expansion.Others) (redirects : List Redirect) : Act (List Target) :=
  redirects.mapM fun (.to channel how word) => do
    match how with
    | .word => return ⟨channel, how, (← Expansion.whole others word) ++ "\n"⟩
    | .here => return ⟨channel, how, ← Expansion.whole others word⟩
    | how =>
      if ← Act.isPlain then return ⟨channel, how, ← Expansion.whole others word⟩
      match ← Expansion.texts others word with
      | [text] => return ⟨channel, how, text⟩
      | _ => Act.fail "ambiguous redirect"

/-- Why a file cannot be opened. -/
def reason (isPlain writes : Bool) (path : String) (errno : Errno) : String :=
  if !isPlain then path ++ ": " ++ errno.text
  else
    let text :=
      if errno = .noEntry then (if writes then "Directory nonexistent" else "No such file")
      else errno.text
    (if writes then "cannot create " else "cannot open ") ++ path ++ ": " ++ text

/-- Keep what a channel means. -/
def keep (keeps : Bool) (channel : Nat) : Act (List Saved) := do
  if !keeps then return []
  match ← Act.ask (.keep channel) with
  | .ok kept => return [⟨channel, some kept⟩]
  | .error _ => return [⟨channel, none⟩]

/-- Let a channel mean what a new descriptor does, and keep what it meant. -/
def put (keeps : Bool) (channel number : Nat) : Act (List Saved) := do
  if number = channel then return if keeps then [⟨channel, none⟩] else []
  let saved ← keep keeps channel
  discard (Act.ask (.copy number channel))
  Act.ask (.close number)
  return saved

/-- The most bytes of a text that are put into a pipe before anything is read from it. -/
def pipeful : Nat := 65536

/-- A descriptor from which a text can be read. -/
def ofText (text : String) : Act Nat := do
  let bytes := Text.Bytes.packString text
  let (out, into) ← Act.ask .pipe
  if bytes.size ≤ pipeful then discard (Act.program (Program.write into bytes))
  else
    discard <| Act.fork do
      Act.ask (.close out)
      discard (Act.program (Program.write into bytes))
      return 0
  Act.ask (.close into)
  return out

/-- Whether a file must not be overwritten. -/
def isGuarded (path : String) : Act Bool := do
  if !(← Act.has .keepsFiles) then return false
  match ← Act.ask (.inspect path) with
  | .ok facts => return facts.kind = .file
  | .error _ => return false

/-- Carry out a redirection; what its channel meant is kept if that is wanted. A failure is the
message about it. -/
def one (keeps : Bool) (target : Target) : Act (Except String (List Saved)) := do
  let isPlain ← Act.isPlain
  let opened (mode : Mode) : Act (Except String (List Saved)) := do
    match ← Act.ask (.open target.text mode) with
    | .ok number => return .ok (← put keeps target.channel number)
    | .error errno =>
      return .error (reason isPlain (mode ≠ .input) target.text errno)
  match target.how with
  | .input => opened .input
  | .both => opened .both
  | .append => opened .append
  | .force => opened .output
  | .output =>
    if ← isGuarded target.text then
      return .error (if isPlain then "cannot create " ++ target.text ++ ": File exists"
        else target.text ++ ": cannot overwrite existing file")
    opened .output
  | .here | .word => return .ok (← put keeps target.channel (← ofText target.text))
  | .copy _ =>
    match target.text.toList with
    | ['-'] =>
      let saved ← keep keeps target.channel
      Act.ask (.close target.channel)
      return .ok saved
    | cs =>
      match Text.natural? cs with
      | none =>
        return .error (if isPlain then "Syntax error: Bad fd number"
          else target.text ++ ": ambiguous redirect")
      | some number =>
        if isPlain && 1 < cs.length then return .error "Syntax error: Bad fd number"
        match ← Act.ask (.inspectOpen number) with
        | .error errno => return .error (toString number ++ ": " ++ errno.text)
        | .ok _ =>
          let saved ← keep keeps target.channel
          discard (Act.ask (.copy number target.channel))
          return .ok saved
  | .outputs appends =>
    match ← Act.ask (.open target.text (if appends then .append else .output)) with
    | .error errno => return .error (reason isPlain true target.text errno)
    | .ok number =>
      let first ← put keeps 1 number
      let second ← keep keeps 2
      discard (Act.ask (.copy 1 2))
      return .ok (second ++ first)

/-- Undo redirections, the last one first. -/
def undo (saved : List Saved) : Act Unit :=
  saved.forM fun saved => do
    match saved.kept with
    | some kept =>
      discard (Act.ask (.copy kept saved.channel))
      Act.ask (.close kept)
    | none => Act.ask (.close saved.channel)

/-- Forget what channels meant. -/
def settle (saved : List Saved) : Act Unit :=
  saved.forM fun saved => do
    match saved.kept with
    | some kept => Act.ask (.close kept)
    | none => pure ()

/-- Carry out redirections, with what they have changed so far, the last one first, even if one
of them fails. -/
def all (keeps : Bool) : (saved : List Saved) → List Target → Act (List Saved × Option String)
  | saved, [] => return (saved, none)
  | saved, target :: rest => do
    match ← one keeps target with
    | .ok more => all keeps (more ++ saved) rest
    | .error message => return (saved, some message)

end TrackSelect.Shell.Redirecting
