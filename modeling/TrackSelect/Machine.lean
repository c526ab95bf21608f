import TrackSelect.ExternalTools
import TrackSelect.Machine.System.Supervision
import TrackSelect.Machine.Utility.Table

/-!
# The machine

A host whose programs are the shell and its utilities, and the scripts on its disk. What is left
running when the tasks are done goes on with the next ones.

It is one host of many. Tools are modelled on any of them (`Toolbox.external`), and what is proved
of selection and ingestion holds for every toolbox; the machine only stands in where a tool is a
script. Nothing but the program and what is proved of the machine depends on the modules below it.
-/

namespace TrackSelect.Machine

/-- A machine on which nothing runs yet. -/
def start (disk : Disk) : World System := ⟨disk, .idle disk⟩

/-- The disk of the machine is that of the world. -/
def host : Host System := fun tasks world =>
  let (answers, system) := System.doAll Utility.programs tasks { world.memory with disk := world.disk }
  (answers, ⟨system.disk, system⟩)

end TrackSelect.Machine
