import TrackSelect.Disk
import TrackSelect.Proofs.Path.Inside

/-!
# What writing does to a disk

Making folders puts folders where there was nothing (`makeFolders_foldered`), and storing a file puts its
content at the place of its path (`store_ok`); whatever else was there is there still. Either way
what was a folder stays one (`Grows`), so paths lead where they did before (`locate_grows`). When
a disk does not do as it is told, the fault is one of its own (`Fault.isOfDisk`).
-/

namespace TrackSelect

/-- A fault of the disk: an error of the system, or a path that no file can have. -/
def Fault.isOfDisk : Fault → Bool
  | system _ | unusablePath => true
  | _ => false

namespace Disk

/-! ## Disks that grow -/

/-- The same working folder, and what was a folder is one still. -/
structure Grows (before after : Disk) : Prop where
  working : after.working = before.working
  folder : ∀ place, before.node? place = some .folder → after.node? place = some .folder

/-- A way that can be gone on a disk can be gone when the disk has grown. -/
theorem walk_grows {before after : Disk} (h : before.Grows after) (way : List String) :
    ∀ {place found : Place}, before.walk place way = .ok found →
      after.walk place way = .ok found := by
  induction way with
  | nil => exact fun hwalk => hwalk
  | cons part rest ih =>
    intro place found hwalk
    rw [walk] at hwalk ⊢
    split_ifs at hwalk ⊢
    · exact ih hwalk
    · exact ih hwalk
    · exact hwalk
    · -- only folders are gone through, and these are there still
      simp only at hwalk ⊢
      split at hwalk
      next hfolder =>
        rw [h.folder _ hfolder]
        exact ih hwalk
      next => cases hwalk
      next => cases hwalk

/-- A path that can be looked up at all. -/
structure IsUsable (path : String) : Prop where
  nul : path.toList.contains '\x00' = false
  short : path.utf8ByteSize ≤ longestPath
  nonempty : path.toList ≠ []

/-- The names that a path is looked up by. -/
def way (path : String) : List String :=
  ((path.toList.splitOn '/').filter (· ≠ [])).map String.ofList ++
    if path.toList.getLast? = some '/' then ["."] else []

/-- The place where the look-up of a path starts. -/
def start (disk : Disk) (path : String) : Place :=
  if Path.isAbsolute path.toList then [] else disk.working

theorem locate_eq (disk : Disk) (path : String) :
    disk.locate path =
      if path.toList.contains '\x00' then .error .unusablePath
      else if longestPath < path.utf8ByteSize then .error (.system .nameTooLong)
      else if path.toList = [] then .error (.system .noEntry)
      else match disk.walk (disk.start path) (way path) with
        | .ok place => .ok place
        | .error errno => .error (.system errno) := rfl

/-- Where a path leads. -/
theorem locate_eq_ok_iff {disk : Disk} {path : String} {place : Place} :
    disk.locate path = .ok place ↔
      IsUsable path ∧ disk.walk (disk.start path) (way path) = .ok place := by
  rw [locate_eq]
  constructor
  · intro h
    split_ifs at h with hnul hlong hempty
    cases hwalk : disk.walk (disk.start path) (way path) with
    | ok found =>
      rw [hwalk] at h
      exact ⟨⟨by simpa using hnul, Nat.not_lt.1 hlong, hempty⟩, by rw [Except.ok.inj h]⟩
    | error errno =>
      rw [hwalk] at h
      cases h
  · rintro ⟨⟨hnul, hshort, hempty⟩, hwalk⟩
    rw [hnul, if_neg Bool.false_ne_true, if_neg (Nat.not_lt.2 hshort), if_neg hempty, hwalk]

/-- A path that leads nowhere is a fault of the disk. -/
theorem isOfDisk_of_locate {disk : Disk} {path : String} {fault : Fault}
    (h : disk.locate path = .error fault) : fault.isOfDisk := by
  rw [locate_eq] at h
  split_ifs at h
  · cases h
    rfl
  · cases h
    rfl
  · cases h
    rfl
  · split at h
    next => cases h
    next =>
      cases h
      rfl

/-- **A path leads where it did** on a disk that has grown. -/
theorem locate_grows {before after : Disk} (h : before.Grows after) {path : String}
    {place : Place} (hlocate : before.locate path = .ok place) : after.locate path = .ok place := by
  obtain ⟨husable, hwalk⟩ := locate_eq_ok_iff.1 hlocate
  refine locate_eq_ok_iff.2 ⟨husable, ?_⟩
  rw [start, h.working]
  exact walk_grows h _ hwalk

/-! ## Names and places -/

/-- A way that ends in a name leads to a place of that name. -/
theorem walk_name (disk : Disk) {name : String} (hdot : name ≠ ".") (hdots : name ≠ "..")
    (before : List String) : ∀ {place found : Place},
      disk.walk place (before ++ [name]) = .ok found → found.getLast? = some name := by
  induction before with
  | nil =>
    intro place found hwalk
    rw [List.nil_append, walk, if_neg hdot, if_neg hdots] at hwalk
    split_ifs at hwalk with hlong hnil
    · cases hwalk
      rw [List.getLast?_concat]
    · exact absurd rfl hnil
  | cons part rest ih =>
    intro place found hwalk
    rw [List.cons_append, walk] at hwalk
    split_ifs at hwalk with hpart hparts hlong hnil
    · exact ih hwalk
    · exact ih hwalk
    · simp at hnil
    · simp only at hwalk
      split at hwalk
      next => exact ih hwalk
      next => cases hwalk
      next => cases hwalk

/-- **A path to a name in a folder leads to a place of that name.** -/
theorem locate_join {disk : Disk} {folder name : String} {place : Place}
    (hslash : '/' ∉ name.toList) (hname : name ≠ "") (hdot : name ≠ ".") (hdots : name ≠ "..")
    (h : disk.locate (Path.join folder name) = .ok place) : place.getLast? = some name := by
  obtain ⟨before, hparts⟩ := Path.splitOn_join folder hslash
  have hcs : name.toList ≠ [] := fun heq => hname (String.toList_eq_nil_iff.1 heq)
  -- nothing stands behind the name, so the path does not go on into it
  have hlast : (Path.join folder name).toList.getLast? ≠ some '/' := by
    rw [Path.join_eq folder hslash, String.toList_append, List.getLast?_append_of_ne_nil _ hcs]
    exact fun heq => hslash (List.mem_of_getLast? heq)
  have hway : way (Path.join folder name) =
      (before.filter (· ≠ [])).map String.ofList ++ [name] := by
    simp [way, hparts, hlast, hcs]
  obtain ⟨-, hwalk⟩ := locate_eq_ok_iff.1 h
  rw [hway] at hwalk
  exact walk_name disk hdot hdots _ hwalk

/-! ## Files -/

/-- What is written at some places only: all other files are as before, and what was a folder is one
still. No device comes to be. -/
structure Spares (places : List Place) (before after : Disk) : Prop extends Grows before after where
  read? : ∀ place, place ∉ places → after.read? place = before.read? place
  device : ∀ place device, after.node? place = some (.device device) →
    before.node? place = some (.device device)

namespace Spares

variable {before between after : Disk} {places others : List Place}

theorem refl (disk : Disk) : Spares [] disk disk :=
  ⟨⟨rfl, fun _ h => h⟩, fun _ _ => rfl, fun _ _ h => h⟩

theorem trans (h₁ : Spares places before between) (h₂ : Spares others between after) :
    Spares (places ++ others) before after where
  working := h₂.working.trans h₁.working
  folder place h := h₂.folder place (h₁.folder place h)
  read? place h := by
    rw [List.mem_append, not_or] at h
    rw [h₂.read? place h.2, h₁.read? place h.1]
  device place device h := h₁.device place device (h₂.device place device h)

end Spares

/-- A folder where there was nothing spares all files. -/
theorem spares_put_folder {disk : Disk} {place : Place} (h : disk.node? place = none) :
    Spares [] disk (disk.put place .folder) := by
  have hplace : place ≠ [] := by
    rintro rfl
    simp [node?] at h
  refine ⟨⟨rfl, fun other hother => ?_⟩, fun other _ => ?_, fun other device hother => ?_⟩
  · rw [node?_put hplace]
    split_ifs
    · rfl
    · exact hother
  · rw [Disk.read?, Disk.read?, node?_put hplace]
    split_ifs with hother
    · rw [hother, h]
    · rfl
  · rw [node?_put hplace] at hother
    split_ifs at hother
    · cases hother
    · exact hother

/-- A file where there was no folder spares all files but one. -/
theorem spares_put_file {disk : Disk} {place : Place} (h : disk.node? place ≠ some .folder)
    (content : List UInt8) (executable : Bool) :
    Spares [place] disk (disk.put place (.file content executable)) := by
  have hplace : place ≠ [] := by
    rintro rfl
    simp [node?] at h
  refine ⟨⟨rfl, fun other hother => ?_⟩, fun other hne => ?_, fun other device hother => ?_⟩
  · have hne : other ≠ place := fun heq => h (heq ▸ hother)
    rw [node?_put hplace, if_neg hne]
    exact hother
  · rw [Disk.read?, Disk.read?, node?_put hplace, if_neg (by simpa using hne)]
  · rw [node?_put hplace] at hother
    split_ifs at hother
    · cases hother
    · exact hother

/-- A new file has its content. -/
theorem read?_put_file {disk : Disk} {place : Place} (h : disk.node? place ≠ some .folder)
    (content : List UInt8) (executable : Bool) :
    (disk.put place (.file content executable)).read? place = some content := by
  have hplace : place ≠ [] := by
    rintro rfl
    simp [node?] at h
  rw [Disk.read?, node?_put hplace, if_pos rfl]

/-- A path to a file that has some content is loaded. -/
theorem load_of_read? {disk : Disk} {path : String} {place : Place} {content : List UInt8}
    (hlocate : disk.locate path = .ok place) (hread : disk.read? place = some content) :
    disk.load path = .ok content := by
  unfold Disk.read? at hread
  split at hread
  · next held executable hnode =>
    cases hread
    simp only [load, hlocate, hnode]
  · cases hread

/-- **Storing a file** puts its content at the place of its path, unless a device is there, which
takes it and leaves the disk as it is. -/
theorem store_ok {disk after : Disk} {path : String} {content : List UInt8}
    (h : disk.store path content = .ok after) :
    ∃ place, disk.locate path = .ok place ∧
      ((∃ device, disk.node? place = some (.device device)) ∧ after = disk ∨
        Spares [place] disk after ∧ after.read? place = some content) := by
  unfold store at h
  split at h
  · cases h
  · next place hplace =>
    refine ⟨place, hplace, ?_⟩
    split at h
    · next hnode =>
      cases h
      have hfree : disk.node? place ≠ some .folder := by simp [hnode]
      exact Or.inr ⟨spares_put_file hfree _ _, read?_put_file hfree _ _⟩
    · next held executable hnode =>
      cases h
      have hfree : disk.node? place ≠ some .folder := by simp [hnode]
      exact Or.inr ⟨spares_put_file hfree _ _, read?_put_file hfree _ _⟩
    · cases h
    · next device hnode => exact Or.inl ⟨⟨device, hnode⟩, (Except.ok.inj h).symm⟩
    · cases h

/-- Either way no other place is written at. -/
theorem store_spares {disk after : Disk} {path : String} {content : List UInt8}
    (h : disk.store path content = .ok after) :
    ∃ places, Spares places disk after ∧ ∀ place ∈ places, disk.locate path = .ok place := by
  obtain ⟨place, hplace, ⟨-, rfl⟩ | ⟨hspares, -⟩⟩ := store_ok h
  · exact ⟨[], Spares.refl after, by simp⟩
  · exact ⟨[place], hspares, by simpa using hplace⟩

/-- A file that cannot be stored is a fault of the disk. -/
theorem isOfDisk_of_store {disk : Disk} {path : String} {content : List UInt8} {fault : Fault}
    (h : disk.store path content = .error fault) : fault.isOfDisk := by
  unfold store at h
  split at h
  · next cause hcause =>
    cases h
    exact isOfDisk_of_locate hcause
  · split at h
    next => cases h
    next => cases h
    next =>
      cases h
      rfl
    next => cases h
    next =>
      cases h
      rfl

/-! ## Folders -/

/-- What becomes of a disk that only folders are made on: its files are spared, or it has a fault. -/
def Foldered (disk : Disk) : Except Fault Disk → Prop
  | .ok after => Spares [] disk after
  | .error fault => fault.isOfDisk

/-- Folders that are made after other folders. -/
theorem Foldered.after {disk between : Disk} {outcome : Except Fault Disk}
    (h : Spares [] disk between) (houtcome : Foldered between outcome) : Foldered disk outcome := by
  cases outcome with
  | ok after => exact h.trans houtcome
  | error fault => exact houtcome

theorem makeFolder_foldered (disk : Disk) (path : String) :
    Foldered disk (disk.makeFolder path) := by
  unfold makeFolder
  split
  · next fault hfault => exact isOfDisk_of_locate hfault
  · next place hplace =>
    split
    · next hnode => exact spares_put_folder hnode
    · rfl

/-- Making a folder after the folders above it. The cases are the ends of the recursion. -/
theorem makeFoldersFrom_foldered (fuel : Nat) (disk : Disk) (path : String) :
    Foldered disk (makeFoldersFrom fuel disk path) := by
  fun_induction makeFoldersFrom fuel disk path with
  | case1 => exact Spares.refl _
  | case2 fuel path _ after hmade =>
    have h := makeFolder_foldered disk path
    rwa [hmade] at h
  | case3 path _ fuel parent _ fault habove _ ih => rwa [habove] at ih
  | case4 path _ fuel parent _ between habove after hmade _ ih =>
    rw [habove] at ih
    have h := makeFolder_foldered between path
    rw [hmade] at h
    exact h.after ih
  | case5 path _ fuel parent _ between habove fault hfault _ _ ih => rwa [habove] at ih
  | case6 path _ fuel parent _ between habove fault hfault _ _ ih =>
    have h := makeFolder_foldered between path
    rwa [hfault] at h
  | case7 => rfl
  | case8 => exact Spares.refl _
  | case9 => rfl
  | case10 fuel path _ fault _ hfault =>
    have h := makeFolder_foldered disk path
    rwa [hfault] at h

/-- **Making folders** spares all files. -/
theorem makeFolders_foldered (disk : Disk) (path : String) :
    Foldered disk (disk.makeFolders path) :=
  makeFoldersFrom_foldered path.length disk path

end Disk

end TrackSelect
