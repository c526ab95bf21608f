import TrackSelect.Path
import TrackSelect.Process.Task
import TrackSelect.Settings.Basic
import TrackSelect.Text.Blank
import TrackSelect.Text.Utf8

/-!
# Running programs

A runner runs one program within limits: all of its output is kept, or the run has failed. A run
that fails in a way that may pass is repeated (`Retry.run`), with pauses that grow.
-/

namespace TrackSelect

/-! ### One run -/

structure Limits where
  /-- The most bytes that may be put out on both pipes together. -/
  output : Nat
  /-- The longest time, in milliseconds. -/
  wait : Nat
deriving DecidableEq, Repr

/-- The output of a run that succeeded. -/
structure Captured where
  out : String
  err : String
deriving DecidableEq, Repr

/-- A program with its limits, and how often it is tried. -/
structure Runner where
  program : String
  limits : Limits
  retry : Retry
deriving DecidableEq, Repr

namespace Runner

/-- The same program with other limits. -/
def withLimits (runner : Runner) (limits : Limits) : Runner := { runner with limits }

/-- The program in messages: its file name, if its path has one. -/
def programName (runner : Runner) : String :=
  ((Path.name? runner.program).map String.ofList).getD runner.program

/-- The fault of a run that puts out too much. -/
def overflow (runner : Runner) : Fault := .outputLimit runner.programName runner.limits.output

/-- The fault of a run that takes too long. -/
def timeout (runner : Runner) : Fault := .timedOut runner.programName (runner.limits.wait / 1000)

/-- What a run with all of its output amounts to, by the way it ended. -/
def judge (runner : Runner) (out err : List UInt8) (ending : Ending) : Except Fault Captured :=
  if ending.isSuccess then .ok ⟨Text.Utf8.decode out, Text.Utf8.decode err⟩
  else
    let complaint := Text.trim (Text.Utf8.decode err).toList
    .error (.processFailed runner.programName ending.text (String.ofList complaint))

/-- Collect what arrives from a program, until it is more than the limit, the pipes are closed or
the time is up. That takes at most `limit + 3` reads, since pieces are not empty. -/
def gather (limits : Limits) (child : Nat) : (reads : Nat) → Buffers → Task Collection
  | 0, buffers => .done (.pending buffers)
  | reads + 1, buffers =>
    .receive child limits.wait fun
      | none => .done (.pending buffers)
      | some read =>
        match buffers.collected limits.output read with
        | .pending buffers => gather limits child reads buffers
        | final => .done final

/-- Run the program once. -/
def attempt (runner : Runner) (arguments : List String) : Task (Except Fault Captured) :=
  .start runner.program arguments fun
    | .error fault => .done (.error fault)
    | .ok child => do
      match ← gather runner.limits child (runner.limits.output + 3) {} with
      | .overflow => .stop child (.done (.error runner.overflow))
      | .pending _ => .stop child (.done (.error runner.timeout))
      | .complete out err =>
        .ending child runner.limits.wait fun
          | none => .stop child (.done (.error runner.timeout))
          | some ending => .done (runner.judge out err ending)

end Runner

/-! ### Runs again -/

namespace Retry

variable {m : Type → Type} [Monad m] {α : Type}

/-- Make a call up to `left` times more, the next of these for the time `again`. -/
def runFrom (retry : Retry) (pause : Nat → m Unit) (call : m (Except Fault α)) (again : Nat) :
    (left : Nat) → m (Except Fault α)
  | 0 => call
  | left + 1 => do
    match ← call with
    | .ok a => pure (.ok a)
    | .error fault =>
      if fault.isRetryable then
        pause (retry.pause * again)
        runFrom retry pause call (again + 1) left
      else pure (.error fault)

/-- Make a call until it succeeds, fails for good, or has been tried often enough. -/
def run (retry : Retry) (pause : Nat → m Unit) (call : m (Except Fault α)) :
    m (Except Fault α) :=
  runFrom retry pause call 1 (max 1 retry.attempts - 1)

end Retry

/-- Run the program, again if need be. -/
def Runner.run (runner : Runner) (arguments : List String) : Task (Except Fault Captured) :=
  runner.retry.run (fun time => .pause time (.done ())) (runner.attempt arguments)

end TrackSelect
