import TrackSelect.Disk.Removal
import TrackSelect.Machine.System.Lookup
import TrackSelect.Machine.System.Process
import TrackSelect.Text.Bytes

/-!
# Answering processes

A system runs processes on one disk and one clock. Each process has descriptors; what they mean is
shared by all that have got it from one another. `System.answer` is what the system makes of a
request: an answer, the end of the process that asked, or nothing for the time being.
-/

namespace TrackSelect.System

/-- What a descriptor means. -/
inductive Opened where
  | file (place : Place) (position : Nat) (mode : Mode)
  | folder (place : Place)
  | device (device : Device)
  /-- One end of a pipe. -/
  | pipe (number : Nat) (writes : Bool)
deriving Repr

/-- A number that a process has for something opened. -/
structure Descriptor where
  number : Nat
  target : Nat
  /-- Closed when another program is started in place of the process. -/
  isKept : Bool
deriving Repr

/-- A process that has not ended. -/
structure Running where
  pid : Pid
  parent : Pid
  code : Process
  descriptors : List Descriptor
  folder : Place
  /-- What signals do that do not do the usual thing. -/
  reactions : List (Nat × Reaction) := []
  arrived : List Nat := []
  /-- When it is to be woken. -/
  wakes : Option Nat := none
  isHalted : Bool := false

namespace Running

def target? (process : Running) (number : Nat) : Option Nat :=
  (process.descriptors.find? (·.number = number)).map (·.target)

/-- The lowest number from some number on that is free. -/
def freeFrom (process : Running) (least : Nat) : Nat :=
  let used := process.descriptors.map (·.number)
  ((List.range (used.length + 1)).find? fun n => !used.contains (least + n)).getD 0 + least

def put (process : Running) (number target : Nat) (isKept : Bool) : Running :=
  { process with
    descriptors := ⟨number, target, isKept⟩ :: process.descriptors.filter (·.number ≠ number) }

def without (process : Running) (number : Nat) : Running :=
  { process with descriptors := process.descriptors.filter (·.number ≠ number) }

def holds (process : Running) (target : Nat) : Bool :=
  process.descriptors.any (·.target = target)

def reaction (process : Running) (number : Nat) : Reaction :=
  (process.reactions.lookup number).getD .usual

end Running

end System

/-- Processes on a disk. -/
structure System where
  disk : Disk
  /-- The time in microseconds. -/
  clock : Nat := 0
  /-- The processes, in the order of their numbers, but the one that is being answered. -/
  running : List System.Running := []
  /-- How processes have ended that nobody has waited for yet. -/
  ended : List (System.Pid × Ending) := []
  opened : List (Nat × System.Opened) := []
  /-- What has been written to pipes and not been read. -/
  pipes : List (Nat × ByteArray) := []
  /-- The next number for a process, a pipe or something opened. -/
  next : Nat := 2

namespace System

/-- What becomes of a request. -/
inductive Reply (α : Type) where
  | answer (a : α) (process : Running) (system : System)
  /-- There is no answer yet. -/
  | wait (process : Running) (system : System)
  | killed (number : Nat) (process : Running) (system : System)

/-! ### Opened things -/

def openedAt? (system : System) (target : Nat) : Option Opened := system.opened.lookup target

def setOpened (system : System) (target : Nat) (opened : Opened) : System :=
  { system with
    opened := system.opened.map fun entry => if entry.1 = target then (target, opened) else entry }

/-- What a descriptor of a process means, with its own number. -/
def meaning? (system : System) (process : Running) (number : Nat) : Option (Nat × Opened) := do
  let target ← process.target? number
  let opened ← system.openedAt? target
  some (target, opened)

def hasEnd (system : System) (pipe : Nat) (writes : Bool) : Bool :=
  system.opened.any fun entry => match entry.2 with
    | .pipe number ends => number = pipe && ends = writes
    | _ => false

def content (system : System) (pipe : Nat) : ByteArray := (system.pipes.lookup pipe).getD .empty

def setContent (system : System) (pipe : Nat) (bytes : ByteArray) : System :=
  { system with
    pipes := (pipe, bytes) :: system.pipes.filter (·.1 ≠ pipe) }

/-- Forget something opened that no process has a descriptor for. -/
def release (process : Running) (system : System) (target : Nat) : System :=
  if process.holds target || system.running.any (·.holds target) then system
  else
    let system := { system with opened := system.opened.filter (·.1 ≠ target) }
    { system with
      pipes := system.pipes.filter fun entry =>
        system.hasEnd entry.1 true || system.hasEnd entry.1 false }

def close (process : Running) (system : System) (number : Nat) : Running × System :=
  match process.target? number with
  | none => (process, system)
  | some target =>
    let process := process.without number
    (process, system.release process target)

/-- Add something opened. -/
def addOpened (system : System) (opened : Opened) : Nat × System :=
  (system.next,
    { system with opened := (system.next, opened) :: system.opened, next := system.next + 1 })

/-! ### Paths -/

/-- The disk as a process sees it. -/
def diskOf (system : System) (process : Running) : Disk :=
  { system.disk with working := process.folder }

def withDisk (system : System) (disk : Disk) : System :=
  { system with disk := { disk with working := system.disk.working } }

def errno : Fault → Errno
  | .system errno => errno
  | _ => .noEntry

/-- The descriptor that a path names. -/
def named? (path : String) : Option Nat :=
  match path with
  | "/dev/stdin" | "/dev/fd/0" | "/proc/self/fd/0" => some 0
  | "/dev/stdout" | "/dev/fd/1" | "/proc/self/fd/1" => some 1
  | "/dev/stderr" | "/dev/fd/2" | "/proc/self/fd/2" => some 2
  | _ => if path.startsWith "/dev/fd/" then (path.drop 8).toNat? else none

/-- Open what a path leads to. -/
def openAt (process : Running) (system : System) (path : String) (mode : Mode) :
    Except Errno (Opened × System) :=
  match (named? path).map (system.meaning? process) with
  | some (some (_, .file place _ _)) => .ok (.file place 0 mode, system)
  | some (some (_, opened)) => .ok (opened, system)
  | some none => .error .noEntry
  | none =>
    let disk := system.diskOf process
    let path := Text.Bytes.toText path
    match disk.locate path with
    | .error fault => .error (errno fault)
    | .ok place =>
      let atStart (disk : Disk) : Except Errno (Opened × System) :=
        .ok (.file place 0 mode, system.withDisk disk)
      match disk.node? place, mode with
      | none, .input => .error .noEntry
      | none, _ =>
        match disk.store path [] with
        | .ok disk => atStart disk
        | .error fault => .error (errno fault)
      | some .folder, .input => .ok (.folder place, system)
      | some .folder, _ => .error .isDirectory
      | some (.device device), _ => .ok (.device device, system)
      | some (.program _), .input => .ok (.device .null, system)
      | some (.program _), _ => .error .noPermission
      | some (.file _ executable), .output => atStart (disk.put place (.file [] executable))
      | some (.file ..), _ => .ok (.file place 0 mode, system)

/-- A change of the disk. -/
def change (process : Running) (system : System) (f : Disk → Except Fault Disk) :
    Reply (Except Errno Unit) :=
  match f (system.diskOf process) with
  | .ok disk => .answer (.ok ()) process (system.withDisk disk)
  | .error fault => .answer (.error (errno fault)) process system

/-- What is known of something on the disk. -/
def factsOf (place : Place) : Node → Facts
  | .folder => ⟨.folder, 4096, true, "/".intercalate place⟩
  | .file content executable => ⟨.file, content.length, executable, "/".intercalate place⟩
  | .device _ => ⟨.device, 0, false, "/".intercalate place⟩
  | .program _ => ⟨.file, 1, true, "/".intercalate place⟩

def inspect (process : Running) (system : System) (path : String) : Except Errno Facts :=
  match (system.diskOf process).find (Text.Bytes.toText path) with
  | .ok (place, node) => .ok (factsOf place node)
  | .error fault => .error (errno fault)

/-- What is known of something opened. -/
def inspectOpened (system : System) : Opened → Facts
  | .file place _ _ =>
    ((system.disk.node? place).map (factsOf place)).getD ⟨.file, 0, false, "/".intercalate place⟩
  | .folder place => factsOf place .folder
  | .device device => factsOf [] (.device device)
  | .pipe number _ => ⟨.pipe, 0, false, toString number⟩

/-! ### Reading and writing -/

/-- The bytes of a file from some position on. -/
def bytesAt (system : System) (place : Place) (position : Nat) : List UInt8 :=
  ((system.disk.read? place).getD []).drop position

/-- Read from something opened; `part` says which bytes are taken of those that are there. -/
def read (process : Running) (system : System) (number : Nat) (part : List UInt8 → List UInt8)
    (most : Nat) : Reply (Except Errno ByteArray) :=
  match system.meaning? process number with
  | none => .answer (.error .badDescriptor) process system
  | some (target, .file place position mode) =>
    if mode = .output || mode = .append then .answer (.error .badDescriptor) process system
    else
      let bytes := part ((system.bytesAt place position).take most)
      .answer (.ok ⟨bytes.toArray⟩) process
        (system.setOpened target (.file place (position + bytes.length) mode))
  | some (_, .folder _) => .answer (.error .isDirectory) process system
  | some (_, .device .null) => .answer (.ok .empty) process system
  | some (_, .device _) =>
    .answer (.ok ⟨(part (List.replicate (min most 8192) 0)).toArray⟩) process system
  | some (_, .pipe _ true) => .answer (.error .badDescriptor) process system
  | some (_, .pipe pipe false) =>
    let held := system.content pipe
    if held.isEmpty then
      if system.hasEnd pipe true then .wait process system
      else .answer (.ok .empty) process system
    else
      let bytes := part (held.extract 0 most).toList
      .answer (.ok ⟨bytes.toArray⟩) process
        (system.setContent pipe (held.extract bytes.length held.size))

/-- Bytes up to and with the first line end. -/
def throughLine (lineEnd : UInt8) : List UInt8 → List UInt8
  | [] => []
  | byte :: rest => if byte = lineEnd then [byte] else byte :: throughLine lineEnd rest

/-- How many bytes a pipe holds, and how many of them are written at once or not at all. -/
def room : Nat := 65536

def atOnce : Nat := 4096

/-- Put bytes into a file at some position; a gap is filled with zeros. -/
def splice (held : List UInt8) (position : Nat) (bytes : List UInt8) : List UInt8 :=
  (held.take position).rightpad position 0 ++ bytes ++ held.drop (position + bytes.length)

/-- Write to something opened. -/
def write (process : Running) (system : System) (number : Nat) (bytes : ByteArray) :
    Reply (Except Errno Nat) :=
  match system.meaning? process number with
  | none => .answer (.error .badDescriptor) process system
  | some (target, .file place position mode) =>
    if mode = .input then .answer (.error .badDescriptor) process system
    else
      let added := bytes.toList
      match system.disk.node? place with
      | some (.file held executable) =>
        let position := if mode = .append then held.length else position
        let held := if position = held.length then held ++ added else splice held position added
        .answer (.ok bytes.size) process
          ({ system with disk := system.disk.put place (.file held executable) }.setOpened target
            (.file place (position + bytes.size) mode))
      | _ => .answer (.ok bytes.size) process system
  | some (_, .folder _) => .answer (.error .badDescriptor) process system
  | some (_, .device .full) => .answer (.error .noSpace) process system
  | some (_, .device _) => .answer (.ok bytes.size) process system
  | some (_, .pipe _ false) => .answer (.error .badDescriptor) process system
  | some (_, .pipe pipe true) =>
    if !system.hasEnd pipe false then
      if process.reaction 13 = .usual then .killed 13 process system
      else .answer (.error .brokenPipe) process system
    else
      let held := system.content pipe
      let free := room - held.size
      if free = 0 || (bytes.size ≤ atOnce && free < bytes.size) then .wait process system
      else
        let taken := min free bytes.size
        .answer (.ok taken) process (system.setContent pipe (held ++ bytes.extract 0 taken))

/-! ### Signals and ends -/

/-- Signals that do not end the process that gets them. -/
def isHarmless (number : Nat) : Bool := [17, 18, 23, 28].contains number

/-- Signals that halt the process that gets them. -/
def isHalting (number : Nat) : Bool := [19, 20, 21, 22].contains number

/-- Forget what a process that has ended had opened, and remember how it ended. -/
def bury (process : Running) (system : System) (ending : Ending) : System :=
  let gone := { process with descriptors := [] }
  let system := process.descriptors.foldl (fun system d => system.release gone d.target) system
  { system with ended := system.ended ++ [(process.pid, ending)] }

/-- What a signal makes of the process that gets it: it ends, or goes on in some way. -/
def receive (process : Running) (number : Nat) : Option Running :=
  if number = 0 then some process
  else if number = 18 then some { process with isHalted := false }
  else
    let reaction := if number = 9 || number = 19 then .usual else process.reaction number
    match reaction with
    | .ignored => some process
    | .caught =>
      some (if process.arrived.contains number then process
        else { process with arrived := process.arrived ++ [number] })
    | .usual =>
      if isHarmless number then some process
      else if isHalting number then some { process with isHalted := true }
      else none

/-- Send a signal to another process. -/
def deliver (process : Running) (system : System) (pid number : Nat) : Except Errno System :=
  match system.running.find? (·.pid = pid) with
  | none => if (system.ended.lookup pid).isSome then .ok system else .error .noProcess
  | some other =>
    let others := { system with running := system.running.filter (·.pid ≠ pid) }
    match receive other number with
    | some other =>
      .ok { system with running := system.running.map fun r => if r.pid = pid then other else r }
    | none =>
      -- What the sender has opened stays open, whoever else is gone.
      let held := { others with running := process :: others.running }
      .ok { bury other held (.signal number) with running := others.running }

/-! ### Requests -/

/-- What the system makes of a request, except starting another program in place of a process. -/
def answer (process : Running) (system : System) : (request : Request) → Reply request.Answer
  | .read number most => read process system number id most
  | .readLine number lineEnd most => read process system number (throughLine lineEnd) most
  | .write number bytes => write process system number bytes
  | .open path mode =>
    match openAt process system path mode with
    | .error errno => .answer (.error errno) process system
    | .ok (opened, system) =>
      let (target, system) := system.addOpened opened
      let number := process.freeFrom 0
      .answer (.ok number) (process.put number target false) system
  | .close number =>
    let (process, system) := close process system number
    .answer () process system
  | .copy number goal =>
    match process.target? number with
    | none => .answer (.error .badDescriptor) process system
    | some target =>
      if number = goal then .answer (.ok ()) process system
      else
        let (process, system) := close process system goal
        .answer (.ok ()) (process.put goal target false) system
  | .keep number =>
    match process.target? number with
    | none => .answer (.error .badDescriptor) process system
    | some target =>
      let kept := process.freeFrom 10
      .answer (.ok kept) (process.put kept target true) system
  | .pipe =>
    let pipe := system.next
    let system := { system with pipes := (pipe, .empty) :: system.pipes, next := pipe + 1 }
    let (out, system) := system.addOpened (.pipe pipe false)
    let (into, system) := system.addOpened (.pipe pipe true)
    let first := process.freeFrom 0
    let process := process.put first out false
    let second := process.freeFrom 0
    .answer (first, second) (process.put second into false) system
  | .sleep time =>
    match process.wakes with
    | none =>
      if time = 0 then .answer () process system
      else .wait { process with wakes := some (system.clock + time) } system
    | some wakes =>
      if wakes ≤ system.clock then .answer () { process with wakes := none } system
      else .wait process system
  | .await pids interruptible =>
    match system.ended.find? (pids.contains ·.1) with
    | some (pid, ending) =>
      .answer (some (pid, ending)) process
        { system with ended := system.ended.filter (·.1 ≠ pid) }
    | none =>
      if interruptible && !process.arrived.isEmpty then .answer none process system
      else .wait process system
  | .signal goal number =>
    if goal ≤ 0 || goal = process.pid then
      match receive process number with
      | some process => .answer (.ok ()) process system
      | none => .killed number process system
    else match deliver process system goal.toNat number with
      | .ok system => .answer (.ok ()) process system
      | .error errno => .answer (.error errno) process system
  | .react number reaction =>
    .answer () { process with
      reactions := (number, reaction) :: process.reactions.filter (·.1 ≠ number) } system
  | .reaction number => .answer (process.reaction number) process system
  | .caught => .answer process.arrived { process with arrived := [] } system
  | .become .. => .answer .notExecutable process system
  | .place => .answer (Text.Bytes.ofText ("/" ++ "/".intercalate process.folder)) process system
  | .enter path =>
    match (system.diskOf process).find (Text.Bytes.toText path) with
    | .error fault => .answer (.error (errno fault)) process system
    | .ok (place, .folder) => .answer (.ok ()) { process with folder := place } system
    | .ok _ => .answer (.error .notDirectory) process system
  | .inspect path => .answer (inspect process system path) process system
  | .inspectOpen number =>
    .answer (match system.meaning? process number with
      | some (_, opened) => .ok (system.inspectOpened opened)
      | none => .error .badDescriptor) process system
  | .list path =>
    .answer (match (system.diskOf process).find (Text.Bytes.toText path) with
      | .ok (place, .folder) => .ok ((system.disk.names place).map Text.Bytes.ofText)
      | .ok _ => .error .notDirectory
      | .error fault => .error (errno fault)) process system
  | .makeFolder path => change process system (·.makeFolder (Text.Bytes.toText path))
  | .removeFile path => change process system (·.removeFile (Text.Bytes.toText path))
  | .removeFolder path => change process system (·.removeFolder (Text.Bytes.toText path))
  | .rename path target =>
    change process system (·.rename (Text.Bytes.toText path) (Text.Bytes.toText target))
  | .setExecutable path executable =>
    change process system (·.setExecutable (Text.Bytes.toText path) executable)
  | .resize path size =>
    change process system fun disk =>
      match disk.load (Text.Bytes.toText path) with
      | .ok held => disk.store (Text.Bytes.toText path) ((held.take size).rightpad size 0)
      | .error (.system errno) =>
        if errno = .noEntry then disk.store (Text.Bytes.toText path) (List.replicate size 0)
        else .error (.system errno)
      | .error fault => .error fault
  | .self => .answer (process.pid, process.parent) process system
  | .clock => .answer system.clock process system
  | .tick => .answer () process system

end System

end TrackSelect
