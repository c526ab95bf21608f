import Mathlib.Data.List.Nodup
import TrackSelect.Catalog

/-!
# The indices of a catalog

A report makes a catalog exactly when its records have indices that are all distinct
(`defect?_eq_none_iff`). So the tracks of all kinds together have distinct indices (`tracks_nodup`).
Whether there is a catalog does not depend on the order of the records (`defect?_perm`), and no more
does what tracks there are of a kind (`tracksOf_perm`).
-/

namespace TrackSelect

/-- A track has the index of its record. -/
theorem StreamRecord.track?_index {record : StreamRecord} {track : Track}
    (h : record.track? = some track) : record.index = some track.index := by
  unfold StreamRecord.track? at h
  obtain ⟨index, hindex, h⟩ := Option.bind_eq_some_iff.1 h
  obtain ⟨kind, -, h⟩ := Option.bind_eq_some_iff.1 h
  rw [hindex, ← Option.some.inj h]

/-- No record tells of a caption file. -/
theorem StreamRecord.track?_captions {record : StreamRecord} {track : Track}
    (h : record.track? = some track) : track.captions = none := by
  unfold StreamRecord.track? at h
  obtain ⟨index, -, h⟩ := Option.bind_eq_some_iff.1 h
  obtain ⟨kind, -, h⟩ := Option.bind_eq_some_iff.1 h
  rw [← Option.some.inj h]

namespace Catalog

/-- Records have no defect when all have an index and no index is there twice. The indices that
were seen before the records count as being there. -/
theorem defect?_eq_none_iff (records : List StreamRecord) : ∀ (position : Nat) (seen : List Nat),
    defect? position seen records = none ↔
      (∀ record ∈ records, record.index ≠ none) ∧
        (records.filterMap StreamRecord.index).Nodup ∧
        ∀ index ∈ records.filterMap StreamRecord.index, index ∉ seen := by
  induction records with
  | nil => simp [defect?]
  | cons record rest ih =>
    intro position seen
    cases hindex : record.index with
    | none => simp [defect?, hindex]
    | some index =>
      -- the first record is fresh when its index was not seen; the rest must not have it again
      by_cases hseen : index ∈ seen
      · simp [defect?, hindex, hseen]
      · simp only [defect?, hindex, hseen, if_false, ih, List.filterMap_cons, List.mem_cons,
          List.nodup_cons, not_or]
        constructor
        · rintro ⟨hall, hnodup, hfresh⟩
          refine ⟨?_, ⟨fun hmem => (hfresh index hmem).1 rfl, hnodup⟩, ?_⟩
          · rintro other (rfl | hother)
            · simp [hindex]
            · exact hall other hother
          · rintro other (rfl | hother)
            · exact hseen
            · exact (hfresh other hother).2
        · rintro ⟨hall, ⟨hnew, hnodup⟩, hfresh⟩
          refine ⟨fun other hother => hall other (Or.inr hother), hnodup, fun other hother => ?_⟩
          exact ⟨fun heq => hnew (heq ▸ hother), hfresh other (Or.inr hother)⟩

/-- The tracks of some records have their indices, in their order. -/
theorem tracks_indices_sublist (records : List StreamRecord) :
    ((records.filterMap StreamRecord.track?).map Track.index).Sublist
      (records.filterMap StreamRecord.index) := by
  induction records with
  | nil => exact List.Sublist.refl _
  | cons record rest ih =>
    cases htrack : record.track? with
    | none =>
      rw [List.filterMap_cons_none htrack]
      refine ih.trans ?_
      exact (List.sublist_cons_self record rest).filterMap StreamRecord.index
    | some track =>
      rw [List.filterMap_cons_some htrack,
        List.filterMap_cons_some (StreamRecord.track?_index htrack), List.map_cons]
      exact ih.cons_cons track.index

/-- The tracks of a kind have distinct indices if the records do. -/
theorem tracksOf_nodup {records : List StreamRecord} (h : defect? 0 [] records = none)
    (kind : Kind) : ((tracksOf kind records).map Track.index).Nodup := by
  have hrecords := ((defect?_eq_none_iff records 0 []).1 h).2.1
  refine hrecords.sublist ?_
  exact (List.filter_sublist.map Track.index).trans (tracks_indices_sublist records)

/-- What makes a catalog of a report: a list of records without a defect. -/
theorem ofReport_ok_iff {report : ProbeReport} {catalog : Catalog} :
    ofReport report = .ok catalog ↔ ∃ records, report.streams = some records ∧
      defect? 0 [] records = none ∧
      catalog = ⟨tracksOf .video records, tracksOf .audio records, tracksOf .subtitle records⟩ := by
  unfold ofReport
  cases report.streams with
  | none => simp
  | some records =>
    cases hdefect : defect? 0 [] records with
    | some defect => simp [hdefect]
    | none => simp [hdefect, eq_comm]

/-- The subtitles of a catalog have distinct indices. -/
theorem subtitle_nodup {report : ProbeReport} {catalog : Catalog}
    (h : ofReport report = .ok catalog) : (catalog.subtitle.map Track.index).Nodup := by
  obtain ⟨records, -, hdefect, rfl⟩ := ofReport_ok_iff.1 h
  exact tracksOf_nodup hdefect .subtitle

/-! ## Tracks of all kinds -/

/-- The tracks of a kind. -/
def ofKind (catalog : Catalog) : Kind → List Track
  | .video => catalog.video
  | .audio => catalog.audio
  | .subtitle => catalog.subtitle

/-- Sorting tracks by their kinds loses none. -/
theorem perm_of_kinds (tracks : List Track) :
    (tracks.filter (·.kind = .video) ++ tracks.filter (·.kind = .audio) ++
      tracks.filter (·.kind = .subtitle)).Perm tracks := by
  induction tracks with
  | nil => exact List.Perm.refl _
  | cons track rest ih =>
    cases hkind : track.kind with
    | video => simpa [hkind] using ih
    | audio =>
      simp only [hkind, List.filter_cons, decide_true, decide_false, if_true, List.append_assoc,
        reduceCtorEq, Bool.false_eq_true, if_false, List.cons_append] at ih ⊢
      exact List.perm_middle.trans (ih.cons track)
    | subtitle =>
      simp only [hkind, List.filter_cons, decide_true, decide_false, if_true, reduceCtorEq,
        Bool.false_eq_true, if_false] at ih ⊢
      exact List.perm_middle.trans (ih.cons track)

/-- **No index is there twice in a catalog**, whatever the kinds are. -/
theorem tracks_nodup {report : ProbeReport} {catalog : Catalog}
    (h : ofReport report = .ok catalog) : (catalog.tracks.map Track.index).Nodup := by
  obtain ⟨records, -, hdefect, rfl⟩ := ofReport_ok_iff.1 h
  have hrecords := ((defect?_eq_none_iff records 0 []).1 hdefect).2.1
  have hall := hrecords.sublist (tracks_indices_sublist records)
  exact ((perm_of_kinds _).map Track.index).nodup_iff.2 hall

/-- A track of a catalog is listed under its kind, and has no caption file. -/
theorem kind_of_mem_ofKind {report : ProbeReport} {catalog : Catalog}
    (h : ofReport report = .ok catalog) (kind : Kind) {track : Track}
    (htrack : track ∈ catalog.ofKind kind) : track.kind = kind ∧ track.captions = none := by
  obtain ⟨records, -, -, rfl⟩ := ofReport_ok_iff.1 h
  have hlisted : track ∈ tracksOf kind records := by cases kind <;> exact htrack
  obtain ⟨hmade, hkind⟩ := List.mem_filter.1 hlisted
  obtain ⟨record, -, hrecord⟩ := List.mem_filterMap.1 hmade
  exact ⟨by simpa using hkind, StreamRecord.track?_captions hrecord⟩

/-! ## Records in another order -/

/-- Whether records have a defect does not depend on their order. -/
theorem defect?_perm {records₁ records₂ : List StreamRecord} (h : records₁.Perm records₂)
    (hnone : defect? 0 [] records₁ = none) : defect? 0 [] records₂ = none := by
  obtain ⟨hall, hnodup, -⟩ := (defect?_eq_none_iff records₁ 0 []).1 hnone
  refine (defect?_eq_none_iff records₂ 0 []).2 ⟨fun record hrecord => ?_, ?_, by simp⟩
  · exact hall record (h.mem_iff.2 hrecord)
  · exact (h.filterMap StreamRecord.index).nodup_iff.1 hnodup

/-- Nor does what tracks they make. -/
theorem tracksOf_perm (kind : Kind) {records₁ records₂ : List StreamRecord}
    (h : records₁.Perm records₂) : (tracksOf kind records₁).Perm (tracksOf kind records₂) :=
  (h.filterMap StreamRecord.track?).filter _

end Catalog

end TrackSelect
