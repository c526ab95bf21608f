/-!
# How programs end

A program ends by itself, with a status of which zero means success, or by a signal.
-/

namespace TrackSelect

inductive Ending where
  | exit (status : Nat)
  | signal (number : Nat)
deriving DecidableEq, Repr

namespace Ending

/-- The names of the signals from number one on. -/
def signalNames : List String :=
  ["HUP", "INT", "QUIT", "ILL", "TRAP", "ABRT", "BUS", "FPE", "KILL", "USR1", "SEGV", "USR2",
    "PIPE", "ALRM", "TERM", "STKFLT", "CHLD", "CONT", "STOP", "TSTP", "TTIN", "TTOU", "URG",
    "XCPU", "XFSZ", "VTALRM", "PROF", "WINCH", "IO", "PWR", "SYS"]

def signalName? (number : Nat) : Option String :=
  if number = 0 then none else signalNames[number - 1]?

def isSuccess (ending : Ending) : Bool := ending == .exit 0

def text : Ending → String
  | exit status => s!"exit status: {status}"
  | signal number =>
    match signalName? number with
    | some name => s!"signal: {number} (SIG" ++ name ++ ")"
    | none => s!"signal: {number}"

/-- The status by which a shell knows the ending. -/
def status : Ending → Nat
  | exit status => status
  | signal number => 128 + number

end Ending

end TrackSelect
