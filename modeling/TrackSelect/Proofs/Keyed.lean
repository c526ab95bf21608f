import Mathlib.Data.List.Induction
import Mathlib.Data.List.Perm.Basic
import Mathlib.Data.String.Basic
import TrackSelect.Keyed

/-!
# Keyed lists

A keyed list is in ascending order of its keys (`ofList_ascending`), so it is found again from its
fields in whatever order these are put (`ofList_eq_of_perm`).
-/

namespace TrackSelect.Keyed

variable {α : Type}

/-- In ascending order of the keys, with no key twice. -/
def Ascending (fields : List (String × α)) : Prop := fields.Pairwise fun a b => a.1 < b.1

theorem mem_put {key : String} {value : α} {fields : List (String × α)} {field : String × α}
    (h : field ∈ put key value fields) : field = (key, value) ∨ field ∈ fields := by
  induction fields with
  | nil => simpa [put] using h
  | cons first rest ih =>
    obtain ⟨k, v⟩ := first
    rw [put] at h
    split_ifs at h
    · exact (List.mem_cons.1 h).imp_right (List.mem_cons_of_mem _)
    · exact List.mem_cons.1 h
    · rcases List.mem_cons.1 h with rfl | h
      · exact Or.inr List.mem_cons_self
      · exact (ih h).imp_right (List.mem_cons_of_mem _)

/-- Putting a value keeps a list in order. -/
theorem Ascending.put {fields : List (String × α)} (h : Ascending fields) (key : String)
    (value : α) : Ascending (put key value fields) := by
  induction fields with
  | nil => exact List.pairwise_singleton _ _
  | cons first rest ih =>
    obtain ⟨k, v⟩ := first
    obtain ⟨hfirst, hrest⟩ := List.pairwise_cons.1 h
    rw [Keyed.put]
    split_ifs with heq hlt
    · subst heq
      exact List.pairwise_cons.2 ⟨hfirst, hrest⟩
    · refine List.pairwise_cons.2 ⟨fun field hfield => ?_, h⟩
      rcases List.mem_cons.1 hfield with rfl | hfield
      · exact hlt
      · exact hlt.trans (hfirst field hfield)
    · refine List.pairwise_cons.2 ⟨fun field hfield => ?_, ih hrest⟩
      rcases mem_put hfield with rfl | hfield
      · exact lt_of_le_of_ne (not_lt.1 hlt) (Ne.symm heq)
      · exact hfirst field hfield

/-- A new key comes to the others. -/
theorem put_perm {key : String} {fields : List (String × α)} (h : key ∉ keys fields) (value : α) :
    (put key value fields).Perm ((key, value) :: fields) := by
  induction fields with
  | nil => exact List.Perm.refl _
  | cons first rest ih =>
    obtain ⟨k, v⟩ := first
    simp only [keys, List.map_cons, List.mem_cons, not_or] at h
    rw [put, if_neg h.1]
    split_ifs
    · exact List.Perm.refl _
    · exact ((ih h.2).cons (k, v)).trans (List.Perm.swap _ _ rest)

/-- The last of some pairs is put to the others. -/
theorem ofList_concat (pairs : List (String × α)) (pair : String × α) :
    ofList (pairs ++ [pair]) = put pair.1 pair.2 (ofList pairs) := by
  rw [ofList, List.foldl_append]
  rfl

/-- The keyed list of some pairs is in order. -/
theorem ofList_ascending (pairs : List (String × α)) : Ascending (ofList pairs) := by
  induction pairs using List.reverseRecOn with
  | nil => exact List.Pairwise.nil
  | append_singleton pairs pair ih =>
    rw [ofList_concat]
    exact ih.put pair.1 pair.2

/-- Its fields are among the pairs. -/
theorem mem_of_mem_ofList {pairs : List (String × α)} {field : String × α}
    (h : field ∈ ofList pairs) : field ∈ pairs := by
  induction pairs using List.reverseRecOn with
  | nil => exact h
  | append_singleton pairs pair ih =>
    rw [ofList_concat] at h
    rcases mem_put h with rfl | hmem
    · simp
    · exact List.mem_append_left [pair] (ih hmem)

/-- With distinct keys, they are all there. -/
theorem ofList_perm {pairs : List (String × α)} (h : (keys pairs).Nodup) :
    (ofList pairs).Perm pairs := by
  induction pairs using List.reverseRecOn with
  | nil => exact List.Perm.refl _
  | append_singleton pairs pair ih =>
    rw [keys, List.map_append, List.nodup_append] at h
    obtain ⟨hpairs, -, hnew⟩ := h
    have hperm := ih hpairs
    have hkey : pair.1 ∉ keys (ofList pairs) := fun hmem =>
      hnew pair.1 ((hperm.map Prod.fst).mem_iff.1 hmem) pair.1 (by simp) rfl
    rw [ofList_concat]
    have hput := (put_perm hkey pair.2).trans (hperm.cons pair)
    exact hput.trans (List.perm_append_singleton pair pairs).symm

/-- **A list in order is found again** from its fields in any order. -/
theorem ofList_eq_of_perm {fields pairs : List (String × α)} (h : Ascending fields)
    (hperm : pairs.Perm fields) : ofList pairs = fields := by
  have hkeys : (keys pairs).Nodup := by
    have hdistinct : (keys fields).Nodup := List.pairwise_map.2 (h.imp ne_of_lt)
    exact (hperm.map Prod.fst).nodup_iff.2 hdistinct
  refine List.Perm.eq_of_pairwise ?_ (ofList_ascending pairs) h ((ofList_perm hkeys).trans hperm)
  exact fun a b _ _ hab hba => absurd hba (lt_asymm hab)

end TrackSelect.Keyed
