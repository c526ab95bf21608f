import TrackSelect.Machine.Shell.State

/-!
# Processes of a shell

A shell waits for the processes that it has started in the foreground, and for others when it is
told to. A process that a signal has ended is told of by the text of the signal.
-/

namespace TrackSelect.Shell.Jobs

open TrackSelect.System (Pid)

/-- The texts of the signals from number one on. -/
def signalTexts : List String :=
  ["Hangup", "Interrupt", "Quit", "Illegal instruction", "Trace/breakpoint trap", "Aborted",
    "Bus error", "Floating point exception", "Killed", "User defined signal 1",
    "Segmentation fault", "User defined signal 2", "Broken pipe", "Alarm clock", "Terminated",
    "Stack fault", "Child exited", "Continued", "Stopped (signal)", "Stopped", "Stopped (tty input)",
    "Stopped (tty output)", "Urgent I/O condition", "CPU time limit exceeded",
    "File size limit exceeded", "Virtual timer expired", "Profiling timer expired",
    "Window changed", "I/O possible", "Power failure", "Bad system call"]

/-- Tell of a process that a signal has ended, unless that is usual. -/
def report (ending : Ending) : Act Unit := do
  match ending with
  | .signal number =>
    if (← Act.isPlain) && number ≠ 2 && number ≠ 13 then
      Act.write 2 ((signalTexts[number - 1]?).getD ("Signal " ++ toString number) ++ "\n")
  | .exit _ => pure ()

/-- Remember how a process in the background has ended. -/
def note (pid : Pid) (status : Nat) : Act Unit :=
  modify fun state => { state with
    works := state.works.map fun work =>
      { work with
        pids := work.pids.filter (· ≠ pid)
        status := if work.pid = pid then some status else work.status } }

/-- Wait for processes, and give their statuses. -/
def waitFor (pids : List Pid) : Act (List Nat) := do
  let ended ← Act.loop (pids, ([] : List (Pid × Nat))) fun (left, ended) => do
    if left.isEmpty then return .inr ended
    match ← Act.ask (.await left false) with
    | some (pid, ending) =>
      report ending
      return .inl (left.filter (· ≠ pid), (pid, ending.status) :: ended)
    | none => return .inr ended
  return pids.map fun pid => (ended.lookup pid).getD 127

/-- Wait for processes of the background, or until a signal is caught; the answer is whether all
of them have ended. -/
def waitInBackground (reports : Bool) (pids : List Pid) : Act Bool :=
  Act.loop pids fun left => do
    if left.isEmpty then return .inr true
    match ← Act.ask (.await left true) with
    | some (pid, ending) =>
      if reports then report ending
      note pid ending.status
      return .inl (left.filter (· ≠ pid))
    | none => return .inr false

/-- Take in a new job of the background. -/
def add (pids : List Pid) : Act Unit :=
  match pids.getLast? with
  | none => pure ()
  | some last => modify fun state => { state with
      lastWork := some last, works := state.works ++ [{ pid := last, pids }] }

/-- What a new process of a shell does not take over from it. -/
def becomeInner : Act Unit :=
  modify fun state => { state with
    isInner := true, works := [], loops := 0
    traps := state.traps.filter (·.2 = "") }

/-- Let a process of the background not be interrupted, and, if it is the first of its job, have
nothing to read. -/
def detach (isFirst : Bool) : Act Unit := do
  Act.ask (.react 2 .ignored)
  Act.ask (.react 3 .ignored)
  if isFirst then
    Act.ask (.close 0)
    discard (Act.ask (.open "/dev/null" .input))

end TrackSelect.Shell.Jobs
