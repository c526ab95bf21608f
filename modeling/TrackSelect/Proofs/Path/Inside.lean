import Mathlib.Data.List.Basic
import TrackSelect.Path

/-!
# Names inside folders

A name without a slash that is joined to a folder stands behind something that depends on the folder
alone (`join_eq`), and is the last part of the path. So inside one folder different names make
different paths (`join_inj`). The stem of a path is such a name (`slash_notMem_stem`).
-/

namespace TrackSelect.Path

/-! ## Parts -/

/-- What is between separators has none. -/
theorem notMem_of_mem_splitOn {c : Char} {cs part : List Char} (h : part ∈ cs.splitOn c) :
    c ∉ part := by
  induction cs generalizing part with
  | nil =>
    rw [List.splitOn_nil, List.mem_singleton] at h
    simp [h]
  | cons d rest ih =>
    rw [List.splitOn_cons_eq_if_modifyHead] at h
    by_cases hd : (d == c) = true
    · rw [if_pos hd] at h
      rcases List.mem_cons.1 h with rfl | h
      · exact List.not_mem_nil
      · exact ih h
    · rw [if_neg hd] at h
      -- the character comes to the first part, which the rest has too
      cases hrest : rest.splitOn c with
      | nil => simp [hrest] at h
      | cons first others =>
        rw [hrest, List.modifyHead_cons] at h
        rw [hrest] at ih
        rcases List.mem_cons.1 h with rfl | h
        · have hdc : c ≠ d := fun heq => hd (by simp [heq])
          simp [hdc, ih List.mem_cons_self]
        · exact ih (List.mem_cons_of_mem first h)

theorem withoutIdleEnd_subset (absolute : Bool) (parts : List (List Char)) :
    withoutIdleEnd absolute parts ⊆ parts := by
  unfold withoutIdleEnd
  split
  · exact List.Subset.refl _
  · next first rest =>
    split
    · split
      · exact List.nil_subset _
      · simp
    · next kept _ =>
      refine List.cons_subset_cons first fun part hpart => ?_
      have hmem := List.mem_reverse.1 hpart
      exact List.mem_reverse.1 ((List.dropWhile_sublist _).subset hmem)

/-- The parts of a path have no slash. -/
theorem slash_notMem_parts {path part : List Char} (h : part ∈ parts path) : '/' ∉ part :=
  notMem_of_mem_splitOn (withoutIdleEnd_subset _ _ h)

/-! ## Stems -/

theorem name?_mem_parts {path : String} {name : List Char} (h : name? path = some name) :
    name ∈ parts path.toList := by
  unfold name? at h
  split at h
  · cases h
  · cases h
  · cases h
  · next last hlast =>
    cases h
    exact List.mem_of_getLast? hlast

theorem withoutExtension_subset (name : List Char) : withoutExtension name ⊆ name := by
  unfold withoutExtension
  split
  · next dot last before heq =>
    intro c hc
    have hmem : c ∈ name.reverse.dropWhile (· ≠ '.') := by
      rw [heq]
      exact List.mem_cons_of_mem dot (List.mem_reverse.1 hc)
    exact List.mem_reverse.1 ((List.dropWhile_sublist _).subset hmem)
  · exact List.Subset.refl name

/-- A stem has no slash. -/
theorem slash_notMem_stem (path : String) : '/' ∉ (stem path).toList := by
  unfold stem
  cases hname : name? path with
  | none => decide
  | some name =>
    rw [String.toList_ofList]
    exact fun hmem => slash_notMem_parts (name?_mem_parts hname) (withoutExtension_subset name hmem)

/-! ## Names in a folder -/

/-- What stands in front of the names inside a folder. -/
def front (folder : String) : String :=
  if folder = "" || folder.toList.getLast? = some '/' then folder else folder ++ "/"

/-- It is empty or ends in a slash. -/
theorem front_eq (folder : String) :
    front folder = "" ∨ ∃ cs, (front folder).toList = cs ++ ['/'] := by
  unfold front
  by_cases hempty : folder = ""
  · simp [hempty]
  · by_cases hslash : folder.toList.getLast? = some '/'
    · right
      obtain ⟨cs, hcs⟩ := List.getLast?_eq_some_iff.1 hslash
      exact ⟨cs, by simpa [hempty, hslash] using hcs⟩
    · right
      exact ⟨folder.toList, by simp [hempty, hslash]⟩

/-- A name in a folder stands behind the folder. -/
theorem join_eq (folder : String) {name : String} (h : '/' ∉ name.toList) :
    join folder name = front folder ++ name := by
  have hrelative : isAbsolute name.toList = false := by
    unfold isAbsolute
    rw [decide_eq_false_iff_not]
    exact fun hhead => h (List.mem_of_head? hhead)
  unfold join front
  rw [hrelative]
  by_cases hfolder : (folder = "" || folder.toList.getLast? = some '/') = true
  · simp [hfolder]
  · simp [hfolder]

/-- **Different names in a folder make different paths.** -/
theorem join_inj {folder name₁ name₂ : String} (h₁ : '/' ∉ name₁.toList) (h₂ : '/' ∉ name₂.toList)
    (h : join folder name₁ = join folder name₂) : name₁ = name₂ := by
  rw [join_eq folder h₁, join_eq folder h₂, ← String.toList_inj, String.toList_append,
    String.toList_append] at h
  exact String.toList_inj.1 (List.append_cancel_left h)

/-- The last part of a path to a name in a folder is the name. -/
theorem splitOn_join (folder : String) {name : String} (h : '/' ∉ name.toList) :
    ∃ before, (join folder name).toList.splitOn '/' = before ++ [name.toList] := by
  rw [join_eq folder h, String.toList_append]
  rcases front_eq folder with hempty | ⟨cs, hslash⟩
  · exact ⟨[], by simp [hempty, List.splitOn_eq_singleton h]⟩
  · refine ⟨cs.splitOn '/', ?_⟩
    rw [hslash, List.append_assoc, List.singleton_append, List.splitOn_append_cons_self,
      List.splitOn_eq_singleton h]

end TrackSelect.Path
