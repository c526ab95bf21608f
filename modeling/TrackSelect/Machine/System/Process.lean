import TrackSelect.Errno
import TrackSelect.Process.Ending

/-!
# Processes

A process is what it asks of the system and how it goes on with each answer, up to its end.
`Program` composes processes: a program gives a value to the process that comes behind it. Nothing
here says what the answers are; that is for the system to decide.
-/

namespace TrackSelect.System

/-- The number of a process. -/
abbrev Pid := Nat

/-- How a file is opened. -/
inductive Mode where
  | input
  /-- Made if it is not there, and emptied. -/
  | output
  /-- Made if it is not there, and written at its end. -/
  | append
  /-- Made if it is not there, for reading and writing. -/
  | both
deriving DecidableEq, Repr

/-- What becomes of a signal. -/
inductive Reaction where
  | usual
  | ignored
  /-- It is kept until the process asks for it. -/
  | caught
deriving DecidableEq, Repr

/-- What stands at a path. -/
inductive Kind where
  | file
  | folder
  | device
  | pipe
deriving DecidableEq, Repr

/-- What is known of a thing on the disk or behind a descriptor. -/
structure Facts where
  kind : Kind
  size : Nat
  executable : Bool
  /-- Which thing it is: two paths with one number lead to the same thing. -/
  identity : String
deriving DecidableEq, Repr

/-- What a process asks of the system. Descriptors are meant by their numbers, texts are byte
texts, and times are in microseconds. -/
inductive Request where
  /-- Up to so many bytes; none at the end. -/
  | read (descriptor most : Nat)
  /-- Bytes up to a line end, if one comes early enough, and with it. -/
  | readLine (descriptor : Nat) (lineEnd : UInt8) (most : Nat)
  /-- Write bytes; the answer is how many of them have been taken. -/
  | write (descriptor : Nat) (bytes : ByteArray)
  | open (path : String) (mode : Mode)
  | close (descriptor : Nat)
  /-- Make one descriptor mean the same as another. -/
  | copy (descriptor target : Nat)
  /-- A copy of a descriptor with a high number, which is closed when another program is started
  in place of this one. -/
  | keep (descriptor : Nat)
  /-- Two new descriptors: what is written to the second can be read from the first. -/
  | pipe
  | sleep (time : Nat)
  /-- Wait until one of some processes has ended, or, if it may be interrupted, until a signal
  is caught. -/
  | await (processes : List Pid) (interruptible : Bool)
  /-- Send a signal. -/
  | signal (process : Int) (number : Nat)
  | react (number : Nat) (reaction : Reaction)
  /-- What a signal does at present. -/
  | reaction (number : Nat)
  /-- The signals that have been caught. -/
  | caught
  /-- Start another program in place of this one. There is an answer only if that fails. -/
  | become (path : String) (name : String) (arguments : List String)
      (environment : List (String × String))
  /-- The working folder. -/
  | place
  | enter (path : String)
  | inspect (path : String)
  | inspectOpen (descriptor : Nat)
  /-- The names in a folder. -/
  | list (path : String)
  | makeFolder (path : String)
  | removeFile (path : String)
  | removeFolder (path : String)
  | rename (path target : String)
  | setExecutable (path : String) (executable : Bool)
  | resize (path : String) (size : Nat)
  /-- The number of this process, and of the one that started it. -/
  | self
  | clock
  /-- Let others go on. -/
  | tick

/-- The answers to a request. -/
@[reducible] def Request.Answer : Request → Type
  | read .. | readLine .. => Except Errno ByteArray
  | write .. => Except Errno Nat
  | .open .. | keep .. => Except Errno Nat
  | close .. | tick | sleep .. | react .. => Unit
  | copy .. | signal .. | enter .. | makeFolder .. | removeFile .. | removeFolder .. | rename ..
  | setExecutable .. | resize .. => Except Errno Unit
  | pipe | self => Nat × Nat
  | await .. => Option (Pid × Ending)
  | reaction .. => Reaction
  | caught => List Nat
  | become .. => Errno
  | place => String
  | inspect .. | inspectOpen .. => Except Errno Facts
  | list .. => Except Errno (List String)
  | clock => Nat

inductive Process where
  | ended (ending : Ending)
  | ask (request : Request) (next : request.Answer → Process)
  /-- Start a process with the same descriptors, and go on with its number. -/
  | split (child : Process) (next : Pid → Process)

/-- A process that never ends. -/
def Process.stuck : Process := .ask (.await [] false) fun _ => .ended (.exit 1)

/-- Something to do, and a value that comes out of it. -/
def Program (α : Type) : Type := (α → Process) → Process

namespace Program

instance : Monad Program where
  pure a := fun next => next a
  bind program f := fun next => program fun a => f a next

/-- Ask the system. -/
def ask (request : Request) : Program request.Answer := fun next => .ask request next

/-- End, whatever was to come. Of the status the lowest byte counts. -/
def finish {α : Type} (status : Nat) : Program α := fun _ => .ended (.exit (status % 256))

/-- The process of a program that gives a status. -/
def process (program : Program Nat) : Process :=
  program fun status => .ended (.exit (status % 256))

/-- Start another process beside this one. -/
def fork (child : Process) : Program Pid := fun next => .split child next

/-- Never go on. -/
def stuck {α : Type} : Program α := fun _ => .stuck

/-- How often a loop may be repeated: more than there is time for. -/
def patience : Nat := 1000000000000

/-- Repeat a step from value to value until it has a result. -/
def loopFrom {σ α : Type} (step : σ → Program (σ ⊕ α)) : (fuel : Nat) → σ → Program α
  | 0, _ => stuck
  | fuel + 1, s => do
    match ← step s with
    | .inl s => loopFrom step fuel s
    | .inr a => pure a

/-- Repeat a step from value to value until it has a result. -/
def loop {σ α : Type} (start : σ) (step : σ → Program (σ ⊕ α)) : Program α :=
  loopFrom step patience start

/-! ### Reading and writing -/

/-- The most bytes that are read at once. -/
def chunk : Nat := 65536

/-- Read everything up to the end. -/
def readAll (descriptor : Nat) : Program (Except Errno ByteArray) :=
  loop ByteArray.empty fun sofar => do
    match ← ask (.read descriptor chunk) with
    | .error errno => pure (.inr (.error errno))
    | .ok bytes => pure (if bytes.isEmpty then .inr (.ok sofar) else .inl (sofar ++ bytes))

/-- Write all of some bytes. -/
def write (descriptor : Nat) (bytes : ByteArray) : Program (Except Errno Unit) :=
  loop bytes fun bytes => do
    if bytes.isEmpty then return .inr (.ok ())
    match ← ask (.write descriptor bytes) with
    | .error errno => pure (.inr (.error errno))
    | .ok count => pure (.inl (bytes.extract count bytes.size))

end Program

end TrackSelect.System
