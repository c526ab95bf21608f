import TrackSelect.Proofs.Machine.Supervision

/-!
# What pipes hold

A request takes bytes from the front of pipes, or puts some behind those of one pipe, as far as
there is room (`answer_flows`). No pipe holds more than it has room for after that if none did
before, and so it stays in the turns of processes (`Fits.settle`) and in the steps of jobs
(`Job.Step.fits`): whatever the programs do, no pipe of the machine ever holds too much
(`Machine.host_fits`).
-/

namespace TrackSelect

namespace System

/-- The bytes of a pipe, the first one to be read first. -/
def held (system : System) (pipe : Nat) : List UInt8 := (system.content pipe).data.toList

/-- From every pipe some bytes may have been taken, the first ones first. -/
def Drained (before after : System) : Prop :=
  ∀ pipe, ∃ k, after.held pipe = (before.held pipe).drop k

/-- Some bytes have been put behind those of one pipe, as far as there is room. -/
def Filled (before after : System) : Prop :=
  ∃ pipe added, after.held pipe = before.held pipe ++ added ∧ (after.held pipe).length ≤ room ∧
    ∀ other, other ≠ pipe → after.held other = before.held other

/-- What becomes of the pipes in one request. -/
def Flows (before after : System) : Prop := Drained before after ∨ Filled before after

theorem Drained.of_pipes {before after : System} (h : after.pipes = before.pipes) :
    Drained before after := fun pipe => ⟨0, by simp [held, content, h]⟩

theorem Drained.trans {before between after : System} (h : Drained before between)
    (h' : Drained between after) : Drained before after := by
  intro pipe
  obtain ⟨k, hk⟩ := h pipe
  obtain ⟨l, hl⟩ := h' pipe
  exact ⟨k + l, by rw [hl, hk, List.drop_drop]⟩

/-! ## Changes of pipes -/

section Changes

variable {process : Running} {system : System}

theorem lookup_filter (pipes : List (Nat × ByteArray)) (kept : Nat → Bool) (pipe : Nat) :
    (pipes.filter fun entry => kept entry.1).lookup pipe =
      if kept pipe then pipes.lookup pipe else none := by
  induction pipes with
  | nil => simp
  | cons entry pipes ih =>
    obtain ⟨number, bytes⟩ := entry
    by_cases hnumber : pipe = number
    · subst hnumber
      cases hkept : kept pipe <;> simp [hkept, ih]
    · have hother : (pipe == number) = false := beq_false_of_ne hnumber
      cases hkept : kept number <;> simp [hkept, ih, List.lookup_cons, hother]

theorem held_filter (system : System) (kept : Nat → Bool) (pipe : Nat) :
    ({ system with pipes := system.pipes.filter fun entry => kept entry.1 } : System).held pipe =
      if kept pipe then system.held pipe else [] := by
  simp only [held, content, lookup_filter]
  split <;> rfl

theorem held_setContent (system : System) (pipe other : Nat) (bytes : ByteArray) :
    (system.setContent pipe bytes).held other =
      if other = pipe then bytes.data.toList else system.held other := by
  have hrest := lookup_filter system.pipes (· ≠ pipe) other
  simp only [held, content, setContent, List.lookup_cons]
  by_cases hother : other = pipe
  · simp [hother]
  · have hfalse : (other == pipe) = false := beq_false_of_ne hother
    rw [hfalse, hrest, if_pos (decide_eq_true hother), if_neg hother]

/-- Pipes that are forgotten are drained. -/
theorem release_drained (process : Running) (system : System) (target : Nat) :
    Drained system (system.release process target) := by
  unfold release
  split
  · exact .of_pipes rfl
  · intro pipe
    rw [held_filter { system with opened := _ }
      (fun number => System.hasEnd _ number true || System.hasEnd _ number false)]
    split
    · exact ⟨0, rfl⟩
    · exact ⟨(system.held pipe).length, (List.drop_length).symm⟩

theorem close_drained (process : Running) (system : System) (number : Nat) :
    Drained system (system.close process number).2 := by
  unfold close
  split
  · exact .of_pipes rfl
  · exact release_drained _ _ _

theorem bury_drained (process : Running) (system : System) (ending : Ending) :
    Drained system (bury process system ending) := by
  unfold bury
  refine Drained.trans ?_ (.of_pipes rfl)
  exact List.foldlRecOn _ _ (motive := Drained system) (.of_pipes rfl)
    fun later hlater d _ => hlater.trans (release_drained _ later d.target)

/-- Sending a signal drains the pipes of a process that it ends. -/
theorem deliver_drained {rest : System} {pid number : Nat}
    (h : deliver process system pid number = .ok rest) : Drained system rest := by
  unfold deliver at h
  split at h
  · split_ifs at h
    cases h
    exact .of_pipes rfl
  · dsimp only at h
    split at h
    · cases h
      exact .of_pipes rfl
    · cases h
      exact bury_drained _ { system with running := _ } (.signal number)

/-- Opening what a path leads to does not change pipes. -/
theorem openAt_pipes {path : String} {mode : Mode} {opened : Opened} {rest : System}
    (h : openAt process system path mode = .ok (opened, rest)) : rest.pipes = system.pipes := by
  unfold openAt at h
  split at h
  · cases h
    rfl
  · cases h
    rfl
  · cases h
  · dsimp only at h
    split at h
    · cases h
    · split at h
      case h_2 =>
        split at h
        · cases h
          rfl
        · cases h
      all_goals cases h
      all_goals rfl

/-- A new pipe holds nothing. -/
theorem new_pipe_drained (number : Nat) :
    Drained system { system with pipes := (number, .empty) :: system.pipes } := by
  intro pipe
  simp only [held, content, List.lookup_cons]
  cases hnumber : pipe == number with
  | true => exact ⟨(system.held pipe).length, List.drop_length.symm⟩
  | false => exact ⟨0, rfl⟩

end Changes

/-! ## Requests -/

/-- The system with which a request leaves off. -/
def Reply.system {α : Type} : Reply α → System
  | .answer _ _ system | .wait _ system | .killed _ _ system => system

theorem toList_extract_end (bytes : ByteArray) (count : Nat) :
    (bytes.extract count bytes.size).data.toList = bytes.data.toList.drop count := by
  rw [ByteArray.data_extract, Array.toList_extract, List.extract_eq_take_drop]
  exact List.take_of_length_le (Nat.le_of_eq List.length_drop)

section Requests

variable (process : Running) (system : System)

/-- Reading takes bytes from the front of a pipe. -/
theorem read_drained (number : Nat) (part : List UInt8 → List UInt8) (most : Nat) :
    Drained system (read process system number part most).system := by
  unfold read
  split
  · exact .of_pipes rfl
  · split_ifs
    · exact .of_pipes rfl
    · exact .of_pipes rfl
  · exact .of_pipes rfl
  · exact .of_pipes rfl
  · exact .of_pipes rfl
  · exact .of_pipes rfl
  · next pipe _ =>
    dsimp only
    split_ifs
    · exact .of_pipes rfl
    · exact .of_pipes rfl
    · intro other
      rw [Reply.system, held_setContent]
      split
      · next hother =>
        subst hother
        refine ⟨(part ((system.content other).extract 0 most).toList).length, ?_⟩
        rw [toList_extract_end]
        rfl
      · exact ⟨0, rfl⟩

/-- Writing puts bytes behind those of a pipe, as far as there is room. -/
theorem write_flows (number : Nat) (bytes : ByteArray) :
    Flows system (write process system number bytes).system := by
  unfold write
  split
  · exact .inl (.of_pipes rfl)
  · split_ifs
    · exact .inl (.of_pipes rfl)
    · dsimp only
      split <;> exact .inl (.of_pipes rfl)
    · dsimp only
      split <;> exact .inl (.of_pipes rfl)
  · exact .inl (.of_pipes rfl)
  · exact .inl (.of_pipes rfl)
  · exact .inl (.of_pipes rfl)
  · exact .inl (.of_pipes rfl)
  · next pipe _ =>
    split_ifs
    · exact .inl (.of_pipes rfl)
    · exact .inl (.of_pipes rfl)
    · dsimp only
      split_ifs
      · exact .inl (.of_pipes rfl)
      · next hroom =>
        have hfree : room - (system.content pipe).size ≠ 0 := fun hfull => hroom (by simp [hfull])
        have hlength : (system.content pipe).data.toList.length = (system.content pipe).size :=
          Array.length_toList
        generalize htaken : min (room - (system.content pipe).size) bytes.size = taken
        refine .inr ⟨pipe, (bytes.extract 0 taken).data.toList, ?_, ?_, fun other hother => ?_⟩
        · rw [Reply.system, held_setContent, if_pos rfl, ByteArray.data_append, Array.toList_append]
          rfl
        · rw [Reply.system, held_setContent, if_pos rfl, ByteArray.data_append, Array.toList_append,
            List.length_append, hlength, Array.length_toList, ← ByteArray.size,
            ByteArray.size_extract]
          omega
        · rw [Reply.system, held_setContent, if_neg hother]

theorem change_drained (f : Disk → Except Fault Disk) :
    Drained system (change process system f).system := by
  unfold change
  split <;> exact .of_pipes rfl

/-- **A request takes bytes from the front of pipes, or puts some behind those of one.** -/
theorem answer_flows (request : Request) :
    Flows system (system.answer process request).system := by
  cases request with
  | read number most => exact .inl (read_drained process system number id most)
  | readLine number lineEnd most => exact .inl (read_drained process system number _ most)
  | write number bytes => exact write_flows process system number bytes
  | «open» path mode =>
    simp only [answer]
    split
    · exact .inl (.of_pipes rfl)
    · next hopen =>
      have hpipes := openAt_pipes hopen
      exact .inl (.of_pipes hpipes)
  | close number => exact .inl (close_drained process system number)
  | copy number goal =>
    simp only [answer]
    split
    · exact .inl (.of_pipes rfl)
    · split_ifs
      · exact .inl (.of_pipes rfl)
      · exact .inl (close_drained process system goal)
  | pipe => exact .inl ((new_pipe_drained system.next).trans (.of_pipes rfl))
  | sleep time =>
    simp only [answer]
    split
    · split_ifs <;> exact .inl (.of_pipes rfl)
    · split_ifs <;> exact .inl (.of_pipes rfl)
  | await pids interruptible =>
    simp only [answer]
    split
    · exact .inl (.of_pipes rfl)
    · split_ifs <;> exact .inl (.of_pipes rfl)
  | signal goal number =>
    simp only [answer]
    split_ifs
    · split <;> exact .inl (.of_pipes rfl)
    · split
      · next hdeliver => exact .inl (deliver_drained hdeliver)
      · exact .inl (.of_pipes rfl)
  | makeFolder _ | removeFile _ | removeFolder _ | rename _ _ | setExecutable _ _ | resize _ _ =>
    simp only [answer]
    exact .inl (change_drained process system _)
  | keep number =>
    simp only [answer]
    split <;> exact .inl (.of_pipes rfl)
  | enter path =>
    simp only [answer]
    split <;> exact .inl (.of_pipes rfl)
  | _ => exact .inl (.of_pipes rfl)

end Requests

/-! ## Runs -/

/-- No pipe holds more than it has room for. -/
def Fits (system : System) : Prop := ∀ pipe, (system.held pipe).length ≤ room

variable {system after : System}

theorem Fits.of_drained (h : system.Fits) (hdrained : Drained system after) : after.Fits := by
  intro pipe
  obtain ⟨k, hk⟩ := hdrained pipe
  rw [hk, List.length_drop]
  exact Nat.le_trans (Nat.sub_le _ _) (h pipe)

theorem Fits.of_flows (h : system.Fits) (hflows : Flows system after) : after.Fits := by
  rcases hflows with hdrained | ⟨pipe, added, -, hroom, hothers⟩
  · exact h.of_drained hdrained
  · intro other
    by_cases hother : other = pipe
    · exact hother ▸ hroom
    · exact hothers other hother ▸ h other

theorem Fits.answer (h : system.Fits) (process : Running) (request : Request) :
    (system.answer process request).system.Fits :=
  h.of_flows (answer_flows process system request)

/-- Starting another program in place of a process closes what the process had kept. -/
theorem become_drained {programs : Programs} {process started : Running} {path called : String}
    {arguments : List String} {environment : List (String × String)}
    (h : become programs process system path called arguments environment =
      .ok (started, after)) : Drained system after := by
  unfold become at h
  split at h
  · cases h
  · cases h
    exact List.foldlRecOn _ _ (motive := fun state : Running × System => Drained system state.2)
      (.of_pipes rfl) fun state hstate number _ =>
        hstate.trans (close_drained state.1 state.2 number)

section Schedule

variable {programs : Programs}

/-- Whatever a process does in its turn, no pipe holds too much. -/
theorem Fits.turn (answers : Nat) (process : Running) (h : system.Fits) :
    (turn programs answers process system).1.Fits := by
  induction answers generalizing process system with
  | zero => exact h
  | succ answers ih =>
    rw [System.turn]
    split_ifs
    · exact h
    · split
      · exact h.of_drained (bury_drained _ _ _)
      · exact ih _ h
      · split
        · next hbecome => exact ih _ (h.of_drained (become_drained hbecome))
        · exact ih _ h
      · next request _ _ _ =>
        have hanswer := h.answer process request
        generalize system.answer process request = reply at hanswer ⊢
        cases reply with
        | answer a process system => exact ih _ hanswer
        | wait process system => exact hanswer
        | killed number process system => exact hanswer.of_drained (bury_drained _ _ _)

theorem Fits.round (pids : List Pid) (h : system.Fits) : (round programs system pids).1.Fits := by
  refine List.foldlRecOn pids _ (motive := fun state : System × Nat => state.1.Fits) h
    fun state hstate pid _ => ?_
  dsimp only
  split
  · exact hstate
  · exact Fits.turn _ _ hstate

theorem Fits.settle (rounds : Nat) (h : system.Fits) : (settle programs rounds system).Fits := by
  induction rounds generalizing system with
  | zero => exact h
  | succ rounds ih =>
    have hround : (System.round programs system (system.running.map (·.pid))).1.Fits := h.round _
    rw [System.settle]
    split
    · next hlast =>
      rw [hlast] at hround
      exact hround
    · next hmore =>
      rw [hmore] at hround
      exact ih hround

end Schedule

/-! ## The supervisor -/

theorem Fits.supervisor (h : system.Fits) : system.supervisor.2.Fits := by
  unfold System.supervisor
  split <;> exact h

theorem Fits.request (h : system.Fits) (request : Request) :
    (system.request request).2.Fits := by
  have hanswer := h.supervisor.answer system.supervisor.1 request
  unfold System.request
  dsimp only
  generalize system.supervisor.2.answer system.supervisor.1 request = reply at hanswer ⊢
  cases reply <;> exact hanswer

theorem Fits.of_request {request : Request} {answer : Option request.Answer} (h : system.Fits)
    (hanswer : system.request request = (answer, after)) : after.Fits := by
  have hrequest := h.request request
  rwa [hanswer] at hrequest

theorem Fits.spawn {programs : Programs} {program : String} {arguments : List String}
    {child : Child} (h : system.Fits)
    (hspawn : spawn programs system program arguments = .ok (child, after)) : after.Fits := by
  have hends : ∀ system : System, Drained system (spawn.pipeEnds system).2 := fun system =>
    (new_pipe_drained system.next).trans (.of_pipes rfl)
  unfold System.spawn at hspawn
  split_ifs at hspawn
  split at hspawn
  · cases hspawn
  · cases hspawn
    -- what is numbered or opened besides leaves the pipes alone
    have hout := h.supervisor.of_drained
      (hends { system.supervisor.2 with next := system.supervisor.2.next + 1 })
    have herr := hout.of_drained (hends _)
    exact herr.of_drained (.of_pipes rfl)

theorem Fits.readFrom {number : Nat} {pipe : Pipe} {read : Option Read} (h : system.Fits)
    (hread : Job.readFrom system number pipe = (read, after)) : after.Fits := by
  unfold Job.readFrom at hread
  split at hread
  · next hanswer =>
    split_ifs at hread
    · cases hread
      exact (h.of_request hanswer).request _
    · cases hread
      exact h.of_request hanswer
  · next hanswer =>
    cases hread
    exact h.of_request hanswer

theorem Fits.kill (h : system.Fits) (child : Child) : (Job.kill system child).Fits := by
  have hsignal := h.request (.signal child.pid 9)
  have hout := hsignal.request (.close child.out)
  have herr := hout.request (.close child.err)
  simpa only [Job.kill] using herr

namespace Job

variable {α : Type} {programs : Programs}

/-- A step of a job leaves no pipe with too much. -/
theorem Step.fits {job next : Job α} (h : Step programs job system next after)
    (hfits : system.Fits) : after.Fits := by
  cases h with
  | started _ hspawn => exact hfits.spawn hspawn
  | output _ _ hout => exact hfits.readFrom hout
  | complaint _ _ hout herr => exact (hfits.readFrom hout).readFrom herr
  | silence _ _ hout herr => exact (hfits.readFrom hout).readFrom herr
  | ended _ _ hanswer => exact hfits.of_request hanswer
  | unended _ _ hanswer => exact hfits.of_request hanswer
  | stopped => exact hfits.kill _
  | _ => exact hfits

theorem fits_advance (steps : Nat) (moved : Bool) (job : Job α) (h : system.Fits) :
    (job.advance programs steps moved system).2.2.Fits := by
  induction steps generalizing moved job system with
  | zero => exact h
  | succ steps ih =>
    rw [advance]
    split
    · next hstep => exact ih _ _ ((step_of_step? hstep).fits h)
    · exact h

end Job

section Work

variable {α : Type} {programs : Programs}

theorem Fits.advanceAll (jobs : List (Job α)) (h : system.Fits) :
    (advanceAll programs jobs system).2.2.Fits := by
  induction jobs generalizing system with
  | nil => exact h
  | cons job jobs ih => exact ih (Job.fits_advance 100000 false job h)

theorem Fits.work (fuel : Nat) (jobs : List (Job α)) (h : system.Fits) :
    (work programs fuel jobs system).2.Fits := by
  induction fuel generalizing jobs system with
  | zero => exact h
  | succ fuel ih =>
    have hround : (System.advanceAll programs jobs system).2.2.Fits := h.advanceAll jobs
    rw [System.work]
    generalize System.advanceAll programs jobs system = round at hround ⊢
    dsimp only
    split_ifs
    · exact hround
    · exact ih _ (hround.settle _)
    · split
      · exact hround
      · exact ih _ (Fits.settle _ hround)

theorem Fits.doAll (tasks : List (Task (Except Fault α))) (h : system.Fits) :
    (doAll programs tasks system).2.Fits := by
  simpa only [System.doAll] using h.work Program.patience (tasks.map fun task => { task })

end Work

end System

namespace Machine

theorem start_fits (disk : Disk) : (start disk).memory.Fits :=
  fun _ => Nat.zero_le _

/-- **No pipe of the machine ever holds more than it has room for**, whatever tasks are done on it
and whatever programs these start. -/
theorem host_fits (tasks : List (Task (Except Fault Captured))) {world : World System}
    (h : world.memory.Fits) : (host tasks world).2.memory.Fits := by
  have hdisk : ({ world.memory with disk := world.disk } : System).Fits := h
  simpa only [host] using hdisk.doAll tasks

end Machine

end TrackSelect
