/-!
# Bounded collection

The output of a program comes through two pipes, in pieces, in any order. `collect` keeps all of it
as long as both together stay within a limit; it stops with the piece that goes beyond, or when
both pipes are closed.
-/

namespace TrackSelect

inductive Pipe where
  | out
  | err
deriving DecidableEq, Repr

/-- Something that arrives from the pipes. -/
inductive Read where
  | piece (pipe : Pipe) (bytes : List UInt8)
  | closed (pipe : Pipe)
deriving DecidableEq, Repr

namespace Read

/-- The most bytes of one piece. -/
def largest : Nat := 8192

end Read

/-- What has arrived, and which pipes are still open. -/
structure Buffers where
  out : List UInt8 := []
  err : List UInt8 := []
  outOpen : Bool := true
  errOpen : Bool := true
deriving DecidableEq, Repr

namespace Buffers

def size (buffers : Buffers) : Nat := buffers.out.length + buffers.err.length

def receive (buffers : Buffers) : Read → Buffers
  | .piece .out bytes => { buffers with out := buffers.out ++ bytes }
  | .piece .err bytes => { buffers with err := buffers.err ++ bytes }
  | .closed .out => { buffers with outOpen := false }
  | .closed .err => { buffers with errOpen := false }

end Buffers

/-- What a collection has come to. -/
inductive Collection where
  /-- A pipe is still open. -/
  | pending (buffers : Buffers)
  /-- There is more than the limit allows. -/
  | overflow
  | complete (out err : List UInt8)
deriving DecidableEq, Repr

/-- What a collection comes to when something arrives. -/
def Buffers.collected (limit : Nat) (buffers : Buffers) (read : Read) : Collection :=
  let buffers := buffers.receive read
  if limit < buffers.size then .overflow
  else if buffers.outOpen || buffers.errOpen then .pending buffers
  else .complete buffers.out buffers.err

/-- Collect what arrives. -/
def collect (limit : Nat) (buffers : Buffers) : List Read → Collection
  | [] => .pending buffers
  | read :: rest =>
    match buffers.collected limit read with
    | .pending buffers => collect limit buffers rest
    | final => final

end TrackSelect
