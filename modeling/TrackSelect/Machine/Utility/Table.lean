import TrackSelect.Machine.Shell.Invocation
import TrackSelect.Machine.System.Schedule
import TrackSelect.Machine.Utility.Characters
import TrackSelect.Machine.Utility.Files
import TrackSelect.Machine.Utility.Lines
import TrackSelect.Machine.Utility.Running

/-!
# The programs of the system
-/

namespace TrackSelect.Utility

open TrackSelect.System (Process Program Programs)

/-- The programs of the system by their names. -/
def table : List (String × Utility) :=
  [("sh", Shell.Invocation.program .plain), ("dash", Shell.Invocation.program .plain),
    ("bash", Shell.Invocation.program .extended), ("true", fun _ _ _ => pure 0),
    ("false", fun _ _ _ => pure 1), ("cat", cat), ("head", head), ("tail", tail), ("wc", wc),
    ("tr", Characters.tr), ("yes", yes), ("sleep", sleep), ("tee", tee), ("echo", echo),
    ("printf", printf), ("test", test "test"), ("[", test "["), ("env", env), ("mkdir", mkdir),
    ("rmdir", rmdir), ("rm", rm), ("touch", touch), ("cp", cp), ("mv", mv), ("ls", ls),
    ("chmod", chmod), ("mktemp", mktemp), ("truncate", truncate), ("cmp", cmp), ("pwd", place),
    ("realpath", realpath), ("readlink", realpath), ("dd", dd), ("basename", basename),
    ("dirname", dirname), ("sort", sort), ("uniq", uniq), ("cut", cut), ("paste", paste),
    ("tac", tac), ("rev", rev), ("nl", nl), ("seq", seq), ("xargs", xargs), ("nohup", nohup),
    ("nice", nice), ("timeout", timeout), ("kill", kill), ("date", date),
    ("whoami", about "root"), ("uname", about "Linux"), ("sync", fun _ _ _ => pure 0)]

/-- The processes of the programs. -/
def programs : Programs := fun name called arguments environment =>
  match table.lookup name with
  | some utility => (utility called arguments environment).process
  | none => .ended (.exit 127)

end TrackSelect.Utility
