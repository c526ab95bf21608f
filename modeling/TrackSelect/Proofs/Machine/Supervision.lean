import Mathlib.Data.List.Forall2
import TrackSelect.Machine
import TrackSelect.Proofs.Process.Attempting
import TrackSelect.Proofs.Text.Utf8
import TrackSelect.Proofs.Toolbox.Reporting

/-!
# What the machine answers

The machine is one of the hosts that external tools can run on, and what is known of tasks on every
host is put to use here for this one. A step of a job answers a request of its task and goes on with
the rest of it (`Job.Step.leads`), whatever the programs are that it starts, so all jobs serve
their tasks to the end (`Serve.work`). What comes out for a task, if anything does, is the result of
one of its runs (`doAll_answers`). With this the tools on the machine report what they are asked
(`Machine.external_reports`), and the output of a program is whole and within its limit
(`Machine.run_ok`).
-/

namespace TrackSelect

/-! ## Exchanges with a machine -/

/-- A piece that arrives holds some bytes, and no more than the largest one. -/
def Exchange.IsSound : Exchange → Prop
  | .received _ _ (some (.piece _ bytes)) => bytes ≠ [] ∧ bytes.length ≤ Read.largest
  | _ => True

namespace Task

variable {α : Type}

/-- After some exchanges with a machine a task goes on as another one. -/
def Leads (task later : Task α) : Prop :=
  ∃ trace : List Exchange, (∀ exchange ∈ trace, exchange.IsSound) ∧
    ∀ behind a, later.Runs behind a → task.Runs (trace ++ behind) a

theorem Leads.refl (task : Task α) : task.Leads task :=
  ⟨[], by simp, fun _ _ h => h⟩

theorem Leads.trans {task between later : Task α} (hfront : task.Leads between)
    (hbehind : between.Leads later) : task.Leads later := by
  obtain ⟨front, hsound, hruns⟩ := hfront
  obtain ⟨behind, hsound', hruns'⟩ := hbehind
  refine ⟨front ++ behind, List.forall_mem_append.2 ⟨hsound, hsound'⟩, fun rest a h => ?_⟩
  rw [List.append_assoc]
  exact hruns _ a (hruns' rest a h)

/-- A task that is answered goes on. -/
theorem Leads.of_exchange {task later : Task α} (exchange : Exchange) (hsound : exchange.IsSound)
    (h : ∀ behind a, later.Runs behind a → task.Runs (exchange :: behind) a) : task.Leads later :=
  ⟨[exchange], List.forall_mem_singleton.2 hsound, h⟩

/-- What a task is led to is a result of it. -/
theorem Leads.runs {task : Task α} {a : α} (h : task.Leads (.done a)) :
    ∃ trace, (∀ exchange ∈ trace, exchange.IsSound) ∧ task.Runs trace a := by
  obtain ⟨trace, hsound, hruns⟩ := h
  exact ⟨trace, hsound, List.append_nil trace ▸ hruns [] a (.done a)⟩

/-- A task is answered with the result of one of its runs, or with the fault that it came to no
result. -/
def IsAnsweredBy (task : Task (Except Fault α)) (answer : Except Fault α) : Prop :=
  (∃ trace, (∀ exchange ∈ trace, exchange.IsSound) ∧ task.Runs trace answer) ∨
    answer = .error (.system .noProcess)

end Task

namespace System

/-! ## Reading -/

/-- No more bytes are read than are asked for. -/
theorem size_read_le {process after : Running} {system rest : System} {number most : Nat}
    {part : List UInt8 → List UInt8} {bytes : ByteArray}
    (hpart : ∀ bytes, (part bytes).length ≤ bytes.length)
    (h : read process system number part most = .answer (.ok bytes) after rest) :
    bytes.size ≤ most := by
  unfold read at h
  split at h
  · cases h
  · split_ifs at h
    · cases h
    · cases h
      exact Nat.le_trans (hpart _) (List.length_take_le _ _)
  · cases h
  · cases h
    exact Nat.zero_le _
  · cases h
    refine Nat.le_trans (hpart _) ?_
    rw [List.length_replicate]
    exact Nat.min_le_left _ _
  · cases h
  · dsimp only at h
    split_ifs at h
    · cases h
      exact Nat.zero_le _
    · cases h
      refine Nat.le_trans (hpart _) ?_
      rw [Text.Utf8.toList_eq_data, Array.length_toList, ← ByteArray.size, ByteArray.size_extract]
      omega

/-- The supervisor reads no more either. -/
theorem size_request_read_le {system rest : System} {number most : Nat} {bytes : ByteArray}
    (h : system.request (.read number most) = (some (.ok bytes), rest)) : bytes.size ≤ most := by
  unfold request at h
  dsimp only [answer] at h
  split at h
  · next hread =>
    cases h
    exact size_read_le (fun _ => Nat.le_refl _) hread
  · cases h
  · cases h

namespace Job

variable {α : Type} {programs : Programs}

/-- What is read for a task is a piece of a fitting size, or the end of a pipe. -/
theorem readFrom_isSound {system rest : System} {number : Nat} {pipe : Pipe} {read : Read}
    (h : readFrom system number pipe = (some read, rest)) (child time : Nat) :
    (Exchange.received child time (some read)).IsSound := by
  unfold readFrom at h
  split at h
  · next bytes after hread =>
    have hlength : bytes.toList.length = bytes.size := by
      rw [Text.Utf8.toList_eq_data, Array.length_toList, ByteArray.size]
    split_ifs at h with hempty
    · cases h
      exact trivial
    · cases h
      refine ⟨fun hnil => hempty ?_, hlength ▸ size_request_read_le hread⟩
      rw [ByteArray.isEmpty, ← hlength, hnil]
      rfl
  · cases h

/-- What a step of a job can do, by what its task asks for: how the job goes on, and on which
system. -/
inductive Step (programs : Programs) (job : Job α) (system : System) : Job α → System → Prop
  | started {program arguments go child after} (htask : job.task = .start program arguments go)
      (h : spawn programs system program arguments = .ok (child, after)) :
      Step programs job system
        { job with task := go (.ok child.pid), children := child :: job.children } after
  | unstarted {program arguments go fault} (htask : job.task = .start program arguments go)
      (h : spawn programs system program arguments = .error fault) :
      Step programs job system { job with task := go (.error fault) } system
  | output {pid time go read after} {child : Child} (htask : job.task = .receive pid time go)
      (hchild : job.child? pid = some child)
      (hout : readFrom system child.out .out = (some read, after)) :
      Step programs job system { job with task := go (some read) } after
  | complaint {pid time go between read after} {child : Child}
      (htask : job.task = .receive pid time go) (hchild : job.child? pid = some child)
      (hout : readFrom system child.out .out = (none, between))
      (herr : readFrom between child.err .err = (some read, after)) :
      Step programs job system { job with task := go (some read) } after
  | silence {pid time go between after} {child : Child}
      (htask : job.task = .receive pid time go) (hchild : job.child? pid = some child)
      (hout : readFrom system child.out .out = (none, between))
      (herr : readFrom between child.err .err = (none, after))
      (hlate : limitOf child time ≤ after.clock) :
      Step programs job system { job with task := go none } after
  | ended {pid time go number ending after} {child : Child}
      (htask : job.task = .ending pid time go) (hchild : job.child? pid = some child)
      (h : system.request (.await [pid] false) = (some (some (number, ending)), after)) :
      Step programs job system { job with task := go (some ending) } after
  | unended {pid time go answer after} {child : Child} (htask : job.task = .ending pid time go)
      (hchild : job.child? pid = some child)
      (h : system.request (.await [pid] false) = (answer, after))
      (hlate : limitOf child time ≤ after.clock) :
      Step programs job system { job with task := go none } after
  | stopped {pid go} {child : Child} (htask : job.task = .stop pid go)
      (hchild : job.child? pid = some child) :
      Step programs job system { job with task := go } (kill system child)
  | unknown {pid go} (htask : job.task = .stop pid go) (hchild : job.child? pid = none) :
      Step programs job system { job with task := go } system
  | paused {time go} (htask : job.task = .pause time go) (hresumes : job.resumes = none) :
      Step programs job system
        { job with resumes := some (system.clock + time * millisecond) } system
  | resumed {time go resumes} (htask : job.task = .pause time go)
      (hresumes : job.resumes = some resumes) (hlate : resumes ≤ system.clock) :
      Step programs job system { job with task := go, resumes := none } system

/-- **A step of a job is one of these.** -/
theorem step_of_step? {job next : Job α} {system rest : System}
    (h : job.step? programs system = some (next, rest)) : Step programs job system next rest := by
  unfold step? at h
  split at h
  · cases h
  · next htask =>
    split at h
    · next hspawn =>
      cases h
      exact .started htask hspawn
    · next hspawn =>
      cases h
      exact .unstarted htask hspawn
  · next htask =>
    obtain ⟨child, hchild, h⟩ := Option.bind_eq_some_iff.1 h
    split at h
    · next hout =>
      cases h
      exact .output htask hchild hout
    · next hout =>
      split at h
      · next herr =>
        cases h
        exact .complaint htask hchild hout herr
      · next herr =>
        split_ifs at h with hlate
        cases h
        exact .silence htask hchild hout herr hlate
  · next htask =>
    obtain ⟨child, hchild, h⟩ := Option.bind_eq_some_iff.1 h
    split at h
    · next hanswer =>
      cases h
      exact .ended htask hchild hanswer
    · next hanswer =>
      split_ifs at h with hlate
      cases h
      exact .unended htask hchild hanswer hlate
  · next htask =>
    cases h
    split
    · next hchild => exact .stopped htask hchild
    · next hchild => exact .unknown htask hchild
  · next htask =>
    split at h
    · next hresumes =>
      cases h
      exact .paused htask hresumes
    · next hresumes =>
      split_ifs at h with hlate
      cases h
      exact .resumed htask hresumes hlate

/-- **A step of a job answers its task**, if it is not the beginning of a pause. -/
theorem Step.leads {job next : Job α} {system rest : System}
    (h : Step programs job system next rest) : job.task.Leads next.task := by
  cases h with
  | started htask =>
    exact htask ▸ .of_exchange (.started _ _ _) trivial fun _ _ h => .start _ h
  | unstarted htask =>
    exact htask ▸ .of_exchange (.started _ _ _) trivial fun _ _ h => .start _ h
  | output htask _ hout =>
    exact htask ▸ .of_exchange _ (readFrom_isSound hout _ _) fun _ _ h => .receive _ h
  | complaint htask _ _ herr =>
    exact htask ▸ .of_exchange _ (readFrom_isSound herr _ _) fun _ _ h => .receive _ h
  | silence htask =>
    exact htask ▸ .of_exchange (.received _ _ none) trivial fun _ _ h => .receive _ h
  | ended htask => exact htask ▸ .of_exchange (.ended _ _ _) trivial fun _ _ h => .ending _ h
  | unended htask => exact htask ▸ .of_exchange (.ended _ _ none) trivial fun _ _ h => .ending _ h
  | stopped htask => exact htask ▸ .of_exchange (.stopped _) trivial fun _ _ h => .stop h
  | unknown htask => exact htask ▸ .of_exchange (.stopped _) trivial fun _ _ h => .stop h
  | paused => exact .refl _
  | resumed htask => exact htask ▸ .of_exchange (.paused _) trivial fun _ _ h => .pause h

/-- So do several steps. -/
theorem advance_leads (steps : Nat) (moved : Bool) (job : Job α) (system : System) :
    job.task.Leads (job.advance programs steps moved system).2.1.task := by
  induction steps generalizing moved job system with
  | zero => exact .refl _
  | succ steps ih =>
    rw [advance]
    split
    · next next rest hstep => exact (step_of_step? hstep).leads.trans (ih true next rest)
    · exact .refl _

end Job

variable {α : Type} {programs : Programs} {tasks : List (Task α)} {jobs : List (Job α)}

/-- Every job has come from its task by exchanges with the machine. -/
def Serve (jobs : List (Job α)) (tasks : List (Task α)) : Prop :=
  List.Forall₂ (fun task job => task.Leads job.task) tasks jobs

/-- Of jobs that take turns each goes on with its own task. -/
theorem Serve.advanceAll (h : Serve jobs tasks) (system : System) :
    Serve (advanceAll programs jobs system).2.1 tasks := by
  induction h generalizing system with
  | nil => exact .nil
  | cons hjob _ ih => exact .cons (hjob.trans (Job.advance_leads 100000 false _ system)) (ih _)

/-- **All the time that jobs are done they serve their tasks**, whatever the programs do. -/
theorem Serve.work (h : Serve jobs tasks) (fuel : Nat) (system : System) :
    Serve (work programs fuel jobs system).1 tasks := by
  induction fuel generalizing jobs system with
  | zero => exact h
  | succ fuel ih =>
    have hround : Serve (System.advanceAll programs jobs system).2.1 tasks := h.advanceAll system
    rw [System.work]
    generalize System.advanceAll programs jobs system = round at hround ⊢
    dsimp only
    split_ifs
    · exact hround
    · exact ih hround _
    · split
      · exact hround
      · exact ih hround _

/-- **Tasks are answered by their own runs**, each in its place. -/
theorem doAll_answers (programs : Programs) (tasks : List (Task (Except Fault α)))
    (system : System) : List.Forall₂ Task.IsAnsweredBy tasks (doAll programs tasks system).1 := by
  have hstart : Serve (tasks.map fun task => ({ task } : Job (Except Fault α))) tasks :=
    List.forall₂_map_right_iff.2 (List.forall₂_same.2 fun task _ => .refl task)
  have hend : Serve (work programs Program.patience _ system).1 tasks := hstart.work _ system
  refine List.forall₂_map_right_iff.2 (hend.imp fun task job hleads => ?_)
  obtain ⟨rest, children, resumes⟩ := job
  cases rest with
  | done answer => exact .inl hleads.runs
  | _ => exact .inr rfl

end System

namespace Machine

/-- Every task on the machine is answered. -/
theorem length_host (tasks : List (Task (Except Fault Captured))) (world : World System) :
    (host tasks world).1.length = tasks.length :=
  (System.doAll_answers _ tasks _).length_eq.symm

/-- **The tools of every settings report on the machine**: what holds of tools that do, holds of
programs that it runs. -/
theorem external_reports (settings : ToolSettings) (media : String) :
    (Toolbox.external host settings).Reports media :=
  Toolbox.external_reports host settings media length_host

/-- A single task on the machine is answered by one of its runs. -/
theorem run_answers (task : Task (Except Fault Captured)) (world : World System) :
    task.IsAnsweredBy (host.run task world).1 := by
  have hall : List.Forall₂ Task.IsAnsweredBy [task] (host [task] world).1 :=
    System.doAll_answers _ _ _
  unfold Host.run
  generalize host [task] world = result at hall ⊢
  obtain ⟨answers, after⟩ := result
  cases hall with
  | cons hfirst _ => exact hfirst

/-- **The output of a program that succeeds on the machine** has arrived from its pipes, in pieces
of a fitting size, with no byte missing, and is within the limit of its runner. -/
theorem run_ok {runner : Runner} {arguments : List String} {world : World System}
    {captured : Captured} (h : (host.run (runner.run arguments) world).1 = .ok captured) :
    ∃ reads : List Read,
      (∀ pipe bytes, .piece pipe bytes ∈ reads → bytes ≠ [] ∧ bytes.length ≤ Read.largest) ∧
      captured = ⟨Text.Utf8.decode (Read.arrived .out reads),
        Text.Utf8.decode (Read.arrived .err reads)⟩ ∧
      (Read.arrived .out reads).length + (Read.arrived .err reads).length ≤
        runner.limits.output := by
  rcases run_answers (runner.run arguments) world with ⟨trace, hsound, hruns⟩ | hnone
  · rw [h] at hruns
    obtain ⟨front, last, rfl, hlast⟩ := Retry.exists_last hruns
    obtain ⟨child, reads, ending, rfl, -, hcaptured, hlimit⟩ := Runner.runs_attempt_ok hlast
    refine ⟨reads, fun pipe bytes hpiece => ?_, hcaptured, hlimit⟩
    have harrival := List.mem_map_of_mem (f := Runner.arrival runner.limits child) hpiece
    exact hsound (Runner.arrival runner.limits child (.piece pipe bytes)) (by simp [harrival])
  · rw [h] at hnone
    cases hnone

end Machine

end TrackSelect
