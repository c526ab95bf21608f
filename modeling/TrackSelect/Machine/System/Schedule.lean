import TrackSelect.Machine.System.Kernel

/-!
# Running processes

Processes take turns, in the order of their numbers. A turn lasts until the process has to wait
or has been answered often enough. When all of them wait, nothing happens until the clock reaches
the time at which one is to be woken.
-/

namespace TrackSelect.System

/-- The processes of the programs of the system: by the name of the program, the name it was
called by, the arguments and the environment. -/
abbrev Programs := (name called : String) → (arguments : List String) →
  (environment : List (String × String)) → Process

/-- Put a process back among the others. -/
def resume (process : Running) (system : System) : System :=
  let before := system.running.takeWhile (·.pid < process.pid)
  { system with running := before ++ process :: system.running.drop before.length }

/-- Start another program in place of a process. -/
def become (programs : Programs) (process : Running) (system : System) (path called : String)
    (arguments : List String) (environment : List (String × String)) :
    Except Errno (Running × System) :=
  match Called.atPath 4 (system.diskOf process) (Text.Bytes.toText path) with
  | .error fault => .error (errno fault)
  | .ok program =>
    let kept := (process.descriptors.filter (·.isKept)).map (·.number)
    let (process, system) := kept.foldl
      (fun (process, system) number => close process system number) (process, system)
    .ok ({ process with
      code := programs program.name called (program.arguments ++ arguments) environment
      reactions := process.reactions.filter (·.2 = .ignored)
      arrived := [] }, system)

/-- Give a process its turn. What comes out is the system with the process put back, and how many
answers of the turn are left. -/
def turn (programs : Programs) : (answers : Nat) → Running → System → System × Nat
  | 0, process, system => (system.resume process, 0)
  | answers + 1, process, system =>
    if process.isHalted then (system.resume process, answers + 1) else
    match process.code with
    | .ended ending => (bury process system ending, answers)
    | .split child next =>
      let pid := system.next
      let other : Running := { process with
        pid, parent := process.pid, code := child, arrived := []
        reactions := process.reactions.filter (·.2 = .ignored) }
      turn programs answers { process with code := next pid }
        { system.resume other with next := pid + 1 }
    | .ask (.become path called arguments environment) next =>
      match become programs process system path called arguments environment with
      | .ok (process, system) => turn programs answers process system
      | .error errno => turn programs answers { process with code := next errno } system
    | .ask request next =>
      match system.answer process request with
      | .answer a process system => turn programs answers { process with code := next a } system
      | .wait process system => (system.resume process, answers + 1)
      | .killed number process system => (bury process system (.signal number), answers)

/-- The answers of one turn. -/
def turnLength : Nat := 10000

/-- Let each of some processes have a turn; with the number of answers that they got. -/
def round (programs : Programs) (system : System) (pids : List Pid) : System × Nat :=
  pids.foldl (fun (system, used) pid =>
    match system.running.find? (·.pid = pid) with
    | none => (system, used)
    | some process =>
      let others := { system with running := system.running.filter (·.pid ≠ pid) }
      let (system, left) := turn programs turnLength process others
      (system, used + (turnLength - left))) (system, 0)

/-- Let all processes go on until each has to wait, or until so many rounds are over. Some of them
never come to wait, and must not keep the clock from going on. -/
def settle (programs : Programs) : (rounds : Nat) → System → System
  | 0, system => system
  | rounds + 1, system =>
    match round programs system (system.running.map (·.pid)) with
    | (system, 0) => system
    | (system, _) => settle programs rounds system

/-- The next time at which a process is to be woken. -/
def nextWake? (system : System) : Option Nat :=
  (system.running.filterMap fun process =>
    match process.wakes with
    | some time => if process.isHalted || time ≤ system.clock then none else some time
    | none => none).min?

end TrackSelect.System
