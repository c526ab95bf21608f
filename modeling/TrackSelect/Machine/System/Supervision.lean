import TrackSelect.Process.Runner
import TrackSelect.Machine.System.Schedule

/-!
# Tasks on a system

One process of the system, the supervisor, does the work of tasks: it starts programs, reads what
they write to its pipes, and stops them. All tasks are under way at the same time. Programs go on
until they have to wait before anything is read from them.
-/

namespace TrackSelect.System

/-- A program that a task has started, with the descriptors to read its output from. Their numbers
are not used again. -/
structure Child where
  pid : Pid
  out : Nat
  err : Nat
  started : Nat

/-- A task under way. -/
structure Job (α : Type) where
  task : Task α
  children : List Child := []
  /-- The end of a pause. -/
  resumes : Option Nat := none

/-- Microseconds in a millisecond. -/
def millisecond : Nat := 1000

/-- The number of the supervisor. -/
def supervisorPid : Pid := 1

/-- A system with nothing but a supervisor. -/
def idle (disk : Disk) : System where
  disk
  running :=
    [{ pid := supervisorPid, parent := 0, code := .stuck, descriptors := []
       folder := disk.working }]

/-- The supervisor, and the system without it. -/
def supervisor (system : System) : Running × System :=
  match system.running.find? (·.pid = supervisorPid) with
  | some process =>
    (process, { system with running := system.running.filter (·.pid ≠ supervisorPid) })
  | none =>
    ({ pid := supervisorPid, parent := 0, code := .stuck, descriptors := []
       folder := system.disk.working }, system)

/-- Ask for something as the supervisor. -/
def request (system : System) (request : Request) : Option request.Answer × System :=
  let (process, system) := system.supervisor
  match system.answer process request with
  | .answer a process system => (some a, system.resume process)
  | .wait process system => (none, system.resume process)
  | .killed _ process system => (none, system.resume process)

/-- The environment of the programs. -/
def environment : List (String × String) :=
  [("HOME", "/root"), ("PATH", "/usr/local/sbin:/usr/local/bin:/usr/sbin:/usr/bin:/sbin:/bin")]

/-- Start a program with nothing to read and pipes to write to. -/
def spawn (programs : Programs) (system : System) (program : String) (arguments : List String) :
    Except Fault (Child × System) :=
  if arguments.any (·.toList.contains '\x00') then .error .unusablePath
  else match Called.find system.disk program with
    | .error fault => .error fault
    | .ok called =>
      let (parent, system) := system.supervisor
      let pid := system.next
      let system := { system with next := pid + 1 }
      let (out, system) := pipeEnds system
      let (err, system) := pipeEnds system
      let (nothing, system) := system.addOpened (.device .null)
      let parent := (parent.put out.1 out.1 true).put err.1 err.1 true
      let child : Running := {
        pid, parent := supervisorPid, folder := system.disk.working
        code := programs called.name (Text.Bytes.ofText program)
          (called.arguments ++ arguments.map Text.Bytes.ofText) environment
        descriptors := [⟨0, nothing, false⟩, ⟨1, out.2, false⟩, ⟨2, err.2, false⟩] }
      let system := (system.resume parent).resume child
      .ok (⟨pid, out.1, err.1, system.clock⟩, system)
where
  /-- The two ends of a new pipe: for reading and for writing. -/
  pipeEnds (system : System) : (Nat × Nat) × System :=
    let pipe := system.next
    let system := { system with pipes := (pipe, .empty) :: system.pipes, next := pipe + 1 }
    let (reads, system) := system.addOpened (.pipe pipe false)
    let (writes, system) := system.addOpened (.pipe pipe true)
    ((reads, writes), system)

namespace Job

variable {α : Type}

def child? (job : Job α) (pid : Nat) : Option Child := job.children.find? (·.pid = pid)

/-- What arrives from one pipe of a child. -/
def readFrom (system : System) (number : Nat) (pipe : Pipe) : Option Read × System :=
  match system.request (.read number Read.largest) with
  | (some (.ok bytes), system) =>
    if bytes.isEmpty then (some (.closed pipe), (system.request (.close number)).2)
    else (some (.piece pipe bytes.toList), system)
  | (_, system) => (none, system)

/-- When the time of a child is up. -/
def limitOf (child : Child) (time : Nat) : Nat := child.started + time * millisecond

/-- Stop a child. What it has started goes on. -/
def kill (system : System) (child : Child) : System :=
  let (_, system) := system.request (.signal child.pid 9)
  let (_, system) := system.request (.close child.out)
  let (_, system) := system.request (.close child.err)
  system

/-- One step of a job, if it can make one. -/
def step? (programs : Programs) (job : Job α) (system : System) : Option (Job α × System) :=
  match job.task with
  | .done _ => none
  | .start program arguments next =>
    match spawn programs system program arguments with
    | .ok (child, system) =>
      some ({ job with task := next (.ok child.pid), children := child :: job.children }, system)
    | .error fault => some ({ job with task := next (.error fault) }, system)
  | .receive pid time next => do
    let child ← job.child? pid
    match readFrom system child.out .out with
    | (some read, system) => some ({ job with task := next (some read) }, system)
    | (none, system) =>
      match readFrom system child.err .err with
      | (some read, system) => some ({ job with task := next (some read) }, system)
      | (none, system) =>
        if limitOf child time ≤ system.clock then
          some ({ job with task := next none }, system)
        else none
  | .ending pid time next => do
    let child ← job.child? pid
    match system.request (.await [pid] false) with
    | (some (some (_, ending)), system) => some ({ job with task := next (some ending) }, system)
    | (_, system) =>
      if limitOf child time ≤ system.clock then some ({ job with task := next none }, system)
      else none
  | .stop pid next =>
    let system := match job.child? pid with
      | some child => kill system child
      | none => system
    some ({ job with task := next }, system)
  | .pause time next =>
    match job.resumes with
    | none => some ({ job with resumes := some (system.clock + time * millisecond) }, system)
    | some resumes =>
      if resumes ≤ system.clock then some ({ job with task := next, resumes := none }, system)
      else none

/-- The time at which a job goes on if nothing else happens. -/
def next? (job : Job α) : Option Nat :=
  match job.task with
  | .receive pid time _ | .ending pid time _ => (job.child? pid).map (limitOf · time)
  | .pause .. => job.resumes
  | _ => none

/-- All steps that a job can make at present, and whether there were any. -/
def advance (programs : Programs) : (steps : Nat) → Bool → Job α → System → Bool × Job α × System
  | 0, moved, job, system => (moved, job, system)
  | steps + 1, moved, job, system =>
    match job.step? programs system with
    | some (job, system) => advance programs steps true job system
    | none => (moved, job, system)

/-- The result of a job that is done. -/
def result? (job : Job α) : Option α :=
  match job.task with
  | .done a => some a
  | _ => none

end Job

variable {α : Type}

/-- All steps that jobs can make at present, and whether there were any. -/
def advanceAll (programs : Programs) : List (Job α) → System → Bool × List (Job α) × System
  | [], system => (false, [], system)
  | job :: rest, system =>
    let (moved, job, system) := job.advance programs 100000 false system
    let (others, rest, system) := advanceAll programs rest system
    (moved || others, job :: rest, system)

/-- How many rounds there are before the clock goes on. -/
def roundsAtOnce : Nat := 64

/-- Do jobs until all of them are done, or nothing more can happen. -/
def work (programs : Programs) : (fuel : Nat) → List (Job α) → System → List (Job α) × System
  | 0, jobs, system => (jobs, system)
  | fuel + 1, jobs, system =>
    let (moved, jobs, system) := advanceAll programs jobs system
    if jobs.all (·.result?.isSome) then (jobs, system)
    else if moved then work programs fuel jobs (settle programs roundsAtOnce system)
    else match (jobs.filterMap (·.next?) ++ system.nextWake?.toList).min? with
      | none => (jobs, system)
      | some time =>
        work programs fuel jobs
          (settle programs roundsAtOnce { system with clock := max system.clock time })

/-- Do tasks at the same time, each up to its result. A task that comes to none fails. -/
def doAll (programs : Programs) (tasks : List (Task (Except Fault α))) (system : System) :
    List (Except Fault α) × System :=
  let (jobs, system) := work programs Program.patience (tasks.map fun task => { task }) system
  (jobs.map fun job => job.result?.getD (.error (.system .noProcess)), system)

end System

end TrackSelect
