import TrackSelect.ExternalTools
import TrackSelect.Toolbox

/-!
# What is asked of tools

`Toolbox.Reports` is what is asked of tools: every extraction is answered, and one that fails is
reported as a failure of the extraction. External programs as tools report so
(`external_reports`).

Tools answer by a function when what they answer to an extraction is nothing but its value there,
whatever else they were asked and whenever that was (`Toolbox.AnswersBy`). They may also do so for
one extraction only (`Toolbox.AnswersAlike`).

Tools that leave the disk alone read media files and put out what they find, but write no file of
their own (`Toolbox.LeavesDisk`).

`Toolbox.FailsWith` bounds the faults that tools may come to at all, in probing as in extracting.
-/

namespace TrackSelect.Toolbox

variable {σ : Type}

/-- Tools that answer every extraction, and report one that failed as a failure of it. -/
structure Reports (tools : Toolbox σ) (media : String) : Prop where
  answers : ∀ extractions world,
    (tools.extractAll media extractions world).1.length = extractions.length
  isExtraction : ∀ extractions world fault,
    .error fault ∈ (tools.extractAll media extractions world).1 → fault.isExtraction

/-- Programs as tools report so, on a host that comes to an end with every task. -/
theorem external_reports (host : Host σ) (settings : ToolSettings) (media : String)
    (hhost : ∀ tasks world, (host tasks world).1.length = tasks.length) :
    (external host settings).Reports media where
  answers extractions world := by
    have hlength := hhost (extractions.map (settings.extraction media)) world
    simp [external, hlength]
  isExtraction extractions world fault hfault := by
    simp only [external, List.mem_map] at hfault
    obtain ⟨⟨extraction, answer⟩, -, hanswer⟩ := hfault
    cases answer with
    | ok captured => simp [extracted] at hanswer
    | error cause =>
      simp only [extracted, Except.error.injEq] at hanswer
      rw [← hanswer]
      rfl

/-! ## A single extraction -/

variable {tools : Toolbox σ} {media : String}

/-- Tools that report give a single extraction its single answer. -/
theorem Reports.extractAll_singleton (h : tools.Reports media) (extraction : Extraction)
    (world : World σ) :
    tools.extractAll media [extraction] world =
      ([(tools.extract media extraction world).1], (tools.extract media extraction world).2) := by
  have hlength := h.answers [extraction] world
  unfold extract
  generalize tools.extractAll media [extraction] world = result at hlength ⊢
  obtain ⟨answers, after⟩ := result
  obtain ⟨answer, rfl⟩ := List.length_eq_one_iff.1 hlength
  rfl

/-- A single extraction that failed is reported as such. -/
theorem Reports.extract_isExtraction (h : tools.Reports media) {extraction : Extraction}
    {world : World σ} {fault : Fault}
    (hfault : (tools.extract media extraction world).1 = .error fault) : fault.isExtraction := by
  refine h.isExtraction [extraction] world fault ?_
  rw [h.extractAll_singleton, hfault]
  exact List.mem_singleton.2 rfl

/-! ## Tools that answer by a function -/

/-- Tools that answer every extraction by a function. -/
def AnswersBy (tools : Toolbox σ) (media : String) (answer : Extraction → Except Fault String) :
    Prop :=
  ∀ extractions world, (tools.extractAll media extractions world).1 = extractions.map answer

/-- Scripted tools answer by their table. -/
theorem scripted_answersBy (answers : Answers) (media : String) :
    (scripted answers).AnswersBy media answers.extract :=
  fun _ _ => rfl

variable {answer : Extraction → Except Fault String}

/-- Tools that answer by a function report if its failures are failures of extractions. -/
theorem AnswersBy.reports (h : tools.AnswersBy media answer)
    (hanswer : ∀ extraction fault, answer extraction = .error fault → fault.isExtraction) :
    tools.Reports media where
  answers extractions world := by rw [h, List.length_map]
  isExtraction extractions world fault hfault := by
    rw [h] at hfault
    obtain ⟨extraction, -, hfault⟩ := List.mem_map.1 hfault
    exact hanswer extraction fault hfault

/-- A single extraction is answered by the function too. -/
theorem AnswersBy.extract (h : tools.AnswersBy media answer) (extraction : Extraction)
    (world : World σ) : (tools.extract media extraction world).1 = answer extraction := by
  have hsingle := h [extraction] world
  unfold Toolbox.extract
  generalize tools.extractAll media [extraction] world = result at hsingle ⊢
  obtain ⟨answers, after⟩ := result
  subst hsingle
  rfl

/-- Tools that give one extraction the same answer every time, whatever is asked beside it. -/
def AnswersAlike (tools : Toolbox σ) (media : String) (extraction : Extraction)
    (answer : Except Fault String) : Prop :=
  ∀ extractions world (n : Nat), extractions[n]? = some extraction →
    (tools.extractAll media extractions world).1[n]? = some answer

/-- Tools that answer by a function answer every extraction alike. -/
theorem AnswersBy.alike (h : tools.AnswersBy media answer) (extraction : Extraction) :
    tools.AnswersAlike media extraction (answer extraction) := by
  intro extractions world n hn
  rw [h, List.getElem?_map, hn, Option.map_some]

/-- The answer is the same where nothing else is asked. -/
theorem AnswersAlike.extract {extraction : Extraction} {answer : Except Fault String}
    (h : tools.AnswersAlike media extraction answer) (world : World σ) :
    (tools.extract media extraction world).1 = answer := by
  have hfirst := h [extraction] world 0 rfl
  unfold Toolbox.extract
  generalize tools.extractAll media [extraction] world = result at hfirst ⊢
  obtain ⟨answers, after⟩ := result
  cases answers with
  | nil => cases hfirst
  | cons first others => exact Option.some.inj hfirst

/-! ## Tools that write nothing -/

/-- Tools that leave the disk as it is. -/
structure LeavesDisk (tools : Toolbox σ) (media : String) : Prop where
  probe : ∀ world, (tools.probe media world).2.disk = world.disk
  extractAll : ∀ extractions world,
    (tools.extractAll media extractions world).2.disk = world.disk

/-- Scripted tools answer from their table. -/
theorem scripted_leavesDisk (answers : Answers) (media : String) :
    (scripted answers).LeavesDisk media where
  probe _ := rfl
  extractAll _ _ := rfl

/-- Programs as tools leave the disk alone on a host where they do. -/
theorem external_leavesDisk (host : Host σ) (settings : ToolSettings) (media : String)
    (hhost : ∀ tasks world, (host tasks world).2.disk = world.disk) :
    (external host settings).LeavesDisk media where
  probe world := by
    have hdisk := hhost [settings.probing.run (ToolArguments.probe media)] world
    simp only [external, answered, Host.run]
    generalize host [settings.probing.run (ToolArguments.probe media)] world = result at hdisk ⊢
    obtain ⟨answers, after⟩ := result
    cases answers <;> exact hdisk
  extractAll extractions world := hhost (extractions.map (settings.extraction media)) world

/-- A single extraction leaves the disk alone too. -/
theorem LeavesDisk.extract (h : tools.LeavesDisk media) (extraction : Extraction)
    (world : World σ) : (tools.extract media extraction world).2.disk = world.disk := by
  have hdisk := h.extractAll [extraction] world
  unfold Toolbox.extract
  generalize tools.extractAll media [extraction] world = result at hdisk ⊢
  obtain ⟨answers, after⟩ := result
  cases answers <;> exact hdisk

/-! ## The faults of tools -/

/-- Tools that fail with faults of some kind only. -/
structure FailsWith (tools : Toolbox σ) (media : String) (allowed : Fault → Prop) : Prop where
  probe : ∀ world fault, (tools.probe media world).1 = .error fault → allowed fault
  extractAll : ∀ extractions world fault,
    .error fault ∈ (tools.extractAll media extractions world).1 → allowed fault

/-- Scripted tools fail with the faults of their table. -/
theorem scripted_failsWith {answers : Answers} {allowed : Fault → Prop} (media : String)
    (hprobe : ∀ fault, answers.probe = .error fault → allowed fault)
    (hextract : ∀ extraction fault, answers.extract extraction = .error fault → allowed fault) :
    (scripted answers).FailsWith media allowed where
  probe _ fault h := hprobe fault h
  extractAll extractions _ fault h := by
    obtain ⟨extraction, -, hanswer⟩ := List.mem_map.1 h
    exact hextract extraction fault hanswer

end TrackSelect.Toolbox
