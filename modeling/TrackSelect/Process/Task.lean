import TrackSelect.Fault
import TrackSelect.Process.Collection
import TrackSelect.Process.Ending

/-!
# Tasks

A task starts programs, takes in what they put out, and waits. It says what it asks of the machine
that the programs run on, and how it goes on with the answers; the machine runs many tasks at
once. Times are in milliseconds.
-/

namespace TrackSelect

inductive Task (α : Type) where
  | done (a : α)
  /-- Start a program; the answer is the number by which it is known. -/
  | start (program : String) (arguments : List String) (next : Except Fault Nat → Task α)
  /-- What arrives next from a program, unless it has been running for a time before that. -/
  | receive (child time : Nat) (next : Option Read → Task α)
  /-- How a program ends, unless it has been running for a time before that. -/
  | ending (child time : Nat) (next : Option Ending → Task α)
  /-- Stop a program that may still be running. -/
  | stop (child : Nat) (next : Task α)
  | pause (time : Nat) (next : Task α)

namespace Task

variable {α β : Type}

/-- Go on with what a task comes to. -/
def andThen : Task α → (α → Task β) → Task β
  | done a, f => f a
  | start program arguments next, f => start program arguments fun answer => (next answer).andThen f
  | receive child time next, f => receive child time fun answer => (next answer).andThen f
  | ending child time next, f => ending child time fun answer => (next answer).andThen f
  | stop child next, f => stop child (next.andThen f)
  | pause time next, f => pause time (next.andThen f)

instance : Monad Task where
  pure := done
  bind := andThen

end Task

end TrackSelect
