import Mathlib.Data.List.Forall2
import TrackSelect.Proofs.Binary64.Rounding
import TrackSelect.Proofs.Catalog.Indices
import TrackSelect.Proofs.Catalog.Reading
import TrackSelect.Proofs.Text.Numeral

/-!
# A catalog is a partition of its report

A report whose records have distinct indices makes a catalog, and of each kind it lists the records
of that type in their order, one track for each (`forall₂_tracksOf`). Any other report is rejected
for the first record that has no index or one that was there before (`defect?_eq_some_iff`). Both
are put together in `ofReport_partitions`.

The length of a track is finite, as no more than 64 bits tell its number of frames. That is how a
report is read (`isFinite_length?_of_read`).
-/

namespace TrackSelect

theorem Kind.ofName?_eq_some_iff {name : String} {kind : Kind} :
    ofName? name = some kind ↔ name = kind.name := by
  constructor
  · intro h
    unfold ofName? at h
    split at h <;> cases h <;> rfl
  · rintro rfl
    exact ofName?_name kind

/-! ## The track of a record -/

/-- A track of a kind tells what its record does. -/
structure Describes (kind : Kind) (record : StreamRecord) (track : Track) : Prop where
  index_eq : record.index = some track.index
  kind_eq : track.kind = kind
  codec_eq : track.codec = record.codec.getD "unknown"
  width_eq : track.width = if kind = .video then record.width else none
  duration_eq : track.duration = record.declaredLength?
  frames_eq : track.frames = record.frameCount?
  language_eq : track.language = record.language?
  captions_eq : track.captions = none

namespace StreamRecord

/-- A record with an index and a known type makes a track of this type. -/
theorem exists_track? {record : StreamRecord} {kind : Kind} (hindex : record.index ≠ none)
    (hkind : record.codecType = some kind.name) :
    ∃ track, record.track? = some track ∧ Describes kind record track := by
  obtain ⟨index, hindex⟩ := Option.ne_none_iff_exists'.1 hindex
  unfold track?
  rw [hindex, hkind, Option.bind_some, Kind.ofName?_name]
  exact ⟨_, rfl, hindex, rfl, rfl, rfl, rfl, rfl, rfl, rfl⟩

/-- Only records of a known type make tracks. -/
theorem codecType_of_track? {record : StreamRecord} {track : Track}
    (h : record.track? = some track) : record.codecType = some track.kind.name := by
  unfold track? at h
  obtain ⟨index, -, h⟩ := Option.bind_eq_some_iff.1 h
  obtain ⟨kind, hkind, h⟩ := Option.bind_eq_some_iff.1 h
  obtain ⟨name, hname, hkind⟩ := Option.bind_eq_some_iff.1 hkind
  rw [hname, Kind.ofName?_eq_some_iff.1 hkind, ← Option.some.inj h]

theorem isSome_track?_iff {record : StreamRecord} (hindex : record.index ≠ none) :
    record.track?.isSome = true ↔ ∃ kind : Kind, record.codecType = some kind.name := by
  rw [Option.isSome_iff_exists]
  constructor
  · rintro ⟨track, htrack⟩
    exact ⟨track.kind, codecType_of_track? htrack⟩
  · rintro ⟨kind, hkind⟩
    obtain ⟨track, htrack, -⟩ := exists_track? hindex hkind
    exact ⟨track, htrack⟩

/-- A number of frames has 64 bits, whether a text or a number tells it. -/
theorem IsSized.frameCount?_lt {record : StreamRecord} (h : record.IsSized) {n : Nat}
    (hn : record.frameCount? = some n) : n < twoTo 64 := by
  unfold frameCount? at hn
  split at hn
  · exact Text.unsigned?_lt hn
  · rename_i name m hfind
    rw [← Option.some.inj hn]
    exact h _ (List.mem_of_find?_eq_some hfind) m rfl
  · contradiction

/-- A declared length is finite. -/
theorem isFinite_of_declaredLength? {record : StreamRecord} {seconds : Binary64}
    (h : record.declaredLength? = some seconds) : seconds.isFinite = true :=
  (Option.filter_eq_some_iff.1 h).2

end StreamRecord

/-- **The length of a track is finite**, be it declared or a number of frames. -/
theorem Describes.isFinite_length? {kind : Kind} {record : StreamRecord} {track : Track}
    (h : Describes kind record track) (hsized : record.IsSized) {length : Binary64}
    (hlength : track.length? = some length) : length.isFinite = true := by
  unfold Track.length? at hlength
  rw [h.duration_eq, h.frames_eq] at hlength
  rcases Option.or_eq_some_iff.1 hlength with hdeclared | ⟨-, hframes⟩
  · exact StreamRecord.isFinite_of_declaredLength? hdeclared
  · obtain ⟨n, hn, rfl⟩ := Option.map_eq_some_iff.1 hframes
    exact Binary64.isFinite_ofNat (hsized.frameCount?_lt hn)

namespace Catalog

/-! ## The tracks of a kind -/

/-- **The tracks of a kind are the records of this type**, in their order. -/
theorem forall₂_tracksOf (kind : Kind) (records : List StreamRecord) :
    (∀ record ∈ records, record.index ≠ none) →
      List.Forall₂ (Describes kind) (records.filter (·.codecType = some kind.name))
        (tracksOf kind records) := by
  unfold tracksOf
  induction records with
  | nil => exact fun _ => List.Forall₂.nil
  | cons record rest ih =>
    intro h
    have ih := ih fun other hother => h other (List.mem_cons_of_mem record hother)
    have hindex := h record List.mem_cons_self
    by_cases hkind : record.codecType = some kind.name
    · obtain ⟨track, htrack, hdescribes⟩ := StreamRecord.exists_track? hindex hkind
      rw [List.filterMap_cons_some htrack, List.filter_cons_of_pos (by simp [hkind]),
        List.filter_cons_of_pos (by simp [hdescribes.kind_eq])]
      exact List.Forall₂.cons hdescribes ih
    · rw [List.filter_cons_of_neg (by simp [hkind])]
      cases htrack : record.track? with
      | none => rwa [List.filterMap_cons_none htrack]
      | some track =>
        -- a track of another kind
        have hother : track.kind ≠ kind := fun heq =>
          hkind (heq ▸ StreamRecord.codecType_of_track? htrack)
        rwa [List.filterMap_cons_some htrack, List.filter_cons_of_neg (by simp [hother])]

/-- The types that make tracks. -/
def knownTypes : List (Option String) := [some "video", some "audio", some "subtitle"]

theorem mem_knownTypes_iff {codecType : Option String} :
    codecType ∈ knownTypes ↔ ∃ kind : Kind, codecType = some kind.name := by
  constructor
  · intro h
    simp only [knownTypes, List.mem_cons, List.not_mem_nil, or_false] at h
    rcases h with h | h | h
    · exact ⟨.video, h⟩
    · exact ⟨.audio, h⟩
    · exact ⟨.subtitle, h⟩
  · rintro ⟨kind, rfl⟩
    cases kind <;> simp [knownTypes, Kind.name]

/-- There are as many tracks as records of a known type. -/
theorem length_filterMap_track? {records : List StreamRecord}
    (h : ∀ record ∈ records, record.index ≠ none) :
    (records.filterMap StreamRecord.track?).length =
      records.countP (·.codecType ∈ knownTypes) := by
  rw [List.length_filterMap_eq_countP]
  refine List.countP_congr fun record hrecord => ?_
  rw [StreamRecord.isSome_track?_iff (h record hrecord), decide_eq_true_iff, mem_knownTypes_iff]

/-- A catalog lists the records of a report by their types. -/
structure IsPartition (records : List StreamRecord) (catalog : Catalog) : Prop where
  /-- One track for each record of a type, in their order. -/
  describes : ∀ kind : Kind, List.Forall₂ (Describes kind)
    (records.filter (·.codecType = some kind.name)) (catalog.ofKind kind)
  nodup : (catalog.tracks.map Track.index).Nodup
  length_eq : catalog.tracks.length = records.countP (·.codecType ∈ knownTypes)
  width_eq_none : ∀ kind : Kind, kind ≠ .video →
    ∀ track ∈ catalog.ofKind kind, track.width = none
  isFinite_duration : ∀ track ∈ catalog.tracks, ∀ seconds,
    track.duration = some seconds → seconds.isFinite = true
  isFinite_length? : (∀ record ∈ records, record.IsSized) → ∀ track ∈ catalog.tracks, ∀ length,
    track.length? = some length → length.isFinite = true

theorem mem_tracks_iff {catalog : Catalog} {track : Track} :
    track ∈ catalog.tracks ↔ ∃ kind : Kind, track ∈ catalog.ofKind kind := by
  unfold tracks
  rw [List.mem_append, List.mem_append]
  constructor
  · rintro ((h | h) | h)
    · exact ⟨.video, h⟩
    · exact ⟨.audio, h⟩
    · exact ⟨.subtitle, h⟩
  · rintro ⟨_ | _ | _, h⟩
    · exact .inl (.inl h)
    · exact .inl (.inr h)
    · exact .inr h

/-- What is said of each track need only be said of the records they describe. -/
theorem exists_describes {records : List StreamRecord} {kind : Kind} {tracks : List Track}
    (h : List.Forall₂ (Describes kind) (records.filter (·.codecType = some kind.name)) tracks)
    {track : Track} (htrack : track ∈ tracks) :
    ∃ record ∈ records, Describes kind record track := by
  obtain ⟨place, hplace, rfl⟩ := List.getElem_of_mem htrack
  have hlength := h.length_eq
  have hdescribes := h.get (hlength ▸ hplace) hplace
  exact ⟨_, List.mem_of_mem_filter (List.getElem_mem _), hdescribes⟩

/-- **The catalog of a report is a partition of its records.** -/
theorem isPartition_of_ok {report : ProbeReport} {catalog : Catalog}
    (h : ofReport report = .ok catalog) :
    ∃ records, report.streams = some records ∧ IsPartition records catalog := by
  obtain ⟨records, hstreams, hdefect, hcatalog⟩ := ofReport_ok_iff.1 h
  have hindexed := ((defect?_eq_none_iff records 0 []).1 hdefect).1
  have hkinds : ∀ kind, catalog.ofKind kind = tracksOf kind records := by
    intro kind
    cases kind <;> rw [hcatalog] <;> rfl
  have hdescribes : ∀ kind : Kind, List.Forall₂ (Describes kind)
      (records.filter (·.codecType = some kind.name)) (catalog.ofKind kind) := fun kind =>
    hkinds kind ▸ forall₂_tracksOf kind records hindexed
  refine ⟨records, hstreams, hdescribes, tracks_nodup h, ?_, ?_, ?_, ?_⟩
  · rw [← length_filterMap_track? hindexed, hcatalog]
    exact (perm_of_kinds _).length_eq
  · intro kind hkind track htrack
    obtain ⟨record, -, hrecord⟩ := exists_describes (hdescribes kind) htrack
    rw [hrecord.width_eq, if_neg hkind]
  · intro track htrack seconds hseconds
    obtain ⟨kind, htrack⟩ := mem_tracks_iff.1 htrack
    obtain ⟨record, -, hrecord⟩ := exists_describes (hdescribes kind) htrack
    exact StreamRecord.isFinite_of_declaredLength? (hrecord.duration_eq ▸ hseconds)
  · intro hsized track htrack length hlength
    obtain ⟨kind, htrack⟩ := mem_tracks_iff.1 htrack
    obtain ⟨record, hmem, hrecord⟩ := exists_describes (hdescribes kind) htrack
    exact hrecord.isFinite_length? (hsized record hmem) hlength

/-- **The lengths of tracks are finite** in the catalog of a report that was read. -/
theorem isFinite_length?_of_read {text : String} {report : ProbeReport} {catalog : Catalog}
    (hread : ProbeReport.read text = .ok report) (h : ofReport report = .ok catalog)
    {track : Track} (htrack : track ∈ catalog.tracks) {length : Binary64}
    (hlength : track.length? = some length) : length.isFinite = true := by
  obtain ⟨records, hstreams, hpartition⟩ := isPartition_of_ok h
  have hsized := ProbeReport.isSized_of_read hread hstreams
  exact hpartition.isFinite_length? hsized track htrack length hlength

/-! ## The first record at fault -/

/-- A record at a place among others is at fault when it has no index, or one that a record before
it has. -/
inductive HasDefect (records : List StreamRecord) (place : Nat) : ReportDefect → Prop where
  | noIndex {record : StreamRecord} (hrecord : records[place]? = some record)
      (hindex : record.index = none) : HasDefect records place (.noIndex place)
  | repeatedIndex {record earlier : StreamRecord} {index : Nat}
      (hrecord : records[place]? = some record) (hindex : record.index = some index)
      (hearlier : earlier ∈ records.take place) (hsame : earlier.index = some index) :
      HasDefect records place (.repeatedIndex index)

/-- A record has one defect at most. -/
theorem HasDefect.unique {records : List StreamRecord} {place : Nat} {a b : ReportDefect}
    (ha : HasDefect records place a) (hb : HasDefect records place b) : a = b := by
  cases ha with
  | noIndex ha hindex =>
    cases hb with
    | noIndex => rfl
    | repeatedIndex hb hindex' => simp_all
  | repeatedIndex ha hindex =>
    cases hb with
    | noIndex hb hindex' => simp_all
    | repeatedIndex hb hindex' => simp_all

/-- The record at a place is the first that is at fault. -/
def IsFirstDefect (records : List StreamRecord) (place : Nat) (defect : ReportDefect) : Prop :=
  HasDefect records place defect ∧ ∀ earlier < place, ∀ other, ¬ HasDefect records earlier other

/-- There is one first defect at most. -/
theorem IsFirstDefect.unique {records : List StreamRecord} {place₁ place₂ : Nat}
    {defect₁ defect₂ : ReportDefect} (h₁ : IsFirstDefect records place₁ defect₁)
    (h₂ : IsFirstDefect records place₂ defect₂) : defect₁ = defect₂ := by
  have hplace : place₁ = place₂ := by
    rcases Nat.lt_trichotomy place₁ place₂ with hlt | heq | hlt
    · exact absurd h₁.1 (h₂.2 place₁ hlt defect₁)
    · exact heq
    · exact absurd h₂.1 (h₁.2 place₂ hlt defect₂)
  subst hplace
  exact h₁.1.unique h₂.1

/-- When the record behind some others is at fault. -/
theorem hasDefect_length_iff {front rest : List StreamRecord} {record : StreamRecord}
    {defect : ReportDefect} :
    HasDefect (front ++ record :: rest) front.length defect ↔
      (record.index = none ∧ defect = .noIndex front.length) ∨
      ∃ index, record.index = some index ∧ (∃ earlier ∈ front, earlier.index = some index) ∧
        defect = .repeatedIndex index := by
  have hrecord : (front ++ record :: rest)[front.length]? = some record := by simp
  have htake : (front ++ record :: rest).take front.length = front := by simp
  constructor
  · intro h
    cases h with
    | noIndex hat hindex =>
      cases hrecord.symm.trans hat
      exact .inl ⟨hindex, rfl⟩
    | repeatedIndex hat hindex hearlier hsame =>
      cases hrecord.symm.trans hat
      exact .inr ⟨_, hindex, ⟨_, htake ▸ hearlier, hsame⟩, rfl⟩
  · rintro (⟨hindex, rfl⟩ | ⟨index, hindex, ⟨earlier, hearlier, hsame⟩, rfl⟩)
    · exact .noIndex hrecord hindex
    · exact .repeatedIndex hrecord hindex (htake.symm ▸ hearlier) hsame

/-- The scan over the rest of the records, when none of those before it is at fault and `seen` are
the indices of these, stops at the first defect. -/
theorem exists_isFirstDefect_append (rest : List StreamRecord) :
    ∀ (front : List StreamRecord) (seen : List Nat) {defect : ReportDefect},
      (∀ index, index ∈ seen ↔ ∃ record ∈ front, record.index = some index) →
      (∀ place < front.length, ∀ other, ¬ HasDefect (front ++ rest) place other) →
      defect? front.length seen rest = some defect →
        ∃ place, IsFirstDefect (front ++ rest) place defect := by
  induction rest with
  | nil =>
    intro front seen defect _ _ h
    cases h
  | cons record rest ih =>
    intro front seen defect hseen hfront h
    unfold defect? at h
    cases hindex : record.index with
    | none =>
      simp only [hindex, Option.some.injEq] at h
      exact ⟨front.length, hasDefect_length_iff.2 (.inl ⟨hindex, h.symm⟩), hfront⟩
    | some index =>
      simp only [hindex] at h
      by_cases hmem : index ∈ seen
      · rw [if_pos hmem, Option.some.injEq] at h
        have hdefect : HasDefect (front ++ record :: rest) front.length defect :=
          hasDefect_length_iff.2 (.inr ⟨index, hindex, (hseen index).1 hmem, h.symm⟩)
        exact ⟨front.length, hdefect, hfront⟩
      · rw [if_neg hmem] at h
        -- the record is sound, so it goes to those in front
        have hsound : ∀ other, ¬ HasDefect (front ++ record :: rest) front.length other := by
          intro other hother
          rcases hasDefect_length_iff.1 hother with ⟨hnone, -⟩ | ⟨found, hsome, hearlier, -⟩
          · exact absurd (hindex.symm.trans hnone) (Option.some_ne_none index)
          · cases hindex.symm.trans hsome
            exact hmem ((hseen index).2 hearlier)
        have hlength : (front ++ [record]).length = front.length + 1 := List.length_append
        rw [List.append_cons] at hfront hsound ⊢
        refine ih (front ++ [record]) (index :: seen) ?_ ?_ (hlength ▸ h)
        · intro other
          simp [hseen, hindex, or_and_right, exists_or, or_comm, eq_comm]
        · intro place hplace
          rcases Nat.lt_succ_iff_lt_or_eq.1 (hlength ▸ hplace) with hlt | rfl
          · exact hfront place hlt
          · exact hsound

/-- **Records with a defect are rejected for the first one.** -/
theorem exists_isFirstDefect {records : List StreamRecord} {defect : ReportDefect}
    (h : defect? 0 [] records = some defect) : ∃ place, IsFirstDefect records place defect :=
  exists_isFirstDefect_append records [] [] (by simp) (by simp) h

/-- Sound records have no defect at any place. -/
theorem not_hasDefect {records : List StreamRecord} (h : defect? 0 [] records = none)
    (place : Nat) (defect : ReportDefect) : ¬ HasDefect records place defect := by
  obtain ⟨hindexed, hnodup, -⟩ := (defect?_eq_none_iff records 0 []).1 h
  intro hdefect
  cases hdefect with
  | noIndex hrecord hindex => exact hindexed _ (List.mem_of_getElem? hrecord) hindex
  | repeatedIndex hrecord hindex hearlier hsame =>
    -- the index stands in front of the place and at it
    rename_i record earlier index
    obtain ⟨hplace, hget⟩ := List.getElem?_eq_some_iff.1 hrecord
    rw [← List.take_append_drop place records, List.drop_eq_getElem_cons hplace, hget,
      List.filterMap_append, List.nodup_append'] at hnodup
    refine List.disjoint_left.1 hnodup.2.2 (List.mem_filterMap.2 ⟨earlier, hearlier, hsame⟩) ?_
    exact List.mem_filterMap.2 ⟨record, List.mem_cons_self, hindex⟩

theorem defect?_eq_some_iff {records : List StreamRecord} {defect : ReportDefect} :
    defect? 0 [] records = some defect ↔ ∃ place, IsFirstDefect records place defect := by
  constructor
  · exact exists_isFirstDefect
  · rintro ⟨place, hfirst⟩
    cases hdefect : defect? 0 [] records with
    | none => exact absurd hfirst.1 (not_hasDefect hdefect place defect)
    | some other =>
      obtain ⟨place', hother⟩ := exists_isFirstDefect hdefect
      rw [hother.unique hfirst]

/-! ## Reports -/

/-- Records that make a catalog: all have an index, and no two have the same one. -/
theorem defect?_eq_none_iff_pairwise {records : List StreamRecord} :
    defect? 0 [] records = none ↔ (∀ record ∈ records, record.index ≠ none) ∧
      records.Pairwise fun a b => a.index ≠ b.index := by
  rw [defect?_eq_none_iff]
  refine and_congr_right fun hindexed => ?_
  have hpairwise : (records.filterMap StreamRecord.index).Nodup ↔
      records.Pairwise fun a b => a.index ≠ b.index := by
    unfold List.Nodup
    rw [List.pairwise_filterMap]
    refine List.Pairwise.iff_of_mem fun {a b} ha _ => ?_
    constructor
    · intro h heq
      obtain ⟨index, hindex⟩ := Option.ne_none_iff_exists'.1 (hindexed a ha)
      exact h index hindex index (heq ▸ hindex) rfl
    · rintro h index ha _ hb rfl
      exact h (ha.trans hb.symm)
  simp [hpairwise]

/-- What rejects a report: a missing list, or a list of records with a defect. -/
theorem ofReport_error_iff {report : ProbeReport} {fault : Fault} :
    ofReport report = .error fault ↔
      (report.streams = none ∧ fault = .malformedReport .noStreamList) ∨
      ∃ records defect, report.streams = some records ∧ defect? 0 [] records = some defect ∧
        fault = .malformedReport defect := by
  unfold ofReport
  cases report.streams with
  | none => simp [eq_comm]
  | some records =>
    cases hdefect : defect? 0 [] records with
    | none => simp [hdefect]
    | some defect => simp [hdefect, eq_comm]

/-- **A catalog is a partition of its report, or the report is rejected.** There is a catalog when
the report has a list of records that all have an index, and none an index that another one has, of
whatever types they are. It lists the records of each known type in their order. Any other report is
rejected, for its missing list or for the first record at fault. -/
theorem ofReport_partitions (report : ProbeReport) :
    ((∃ catalog, ofReport report = .ok catalog) ↔
      ∃ records, report.streams = some records ∧ (∀ record ∈ records, record.index ≠ none) ∧
        records.Pairwise fun a b => a.index ≠ b.index) ∧
    (∀ catalog, ofReport report = .ok catalog →
      ∃ records, report.streams = some records ∧ IsPartition records catalog) ∧
    ∀ fault, ofReport report = .error fault ↔
      (report.streams = none ∧ fault = .malformedReport .noStreamList) ∨
      ∃ records place defect, report.streams = some records ∧
        IsFirstDefect records place defect ∧ fault = .malformedReport defect := by
  refine ⟨?_, fun catalog h => isPartition_of_ok h, fun fault => ?_⟩
  · constructor
    · rintro ⟨catalog, h⟩
      obtain ⟨records, hstreams, hdefect, -⟩ := ofReport_ok_iff.1 h
      exact ⟨records, hstreams, defect?_eq_none_iff_pairwise.1 hdefect⟩
    · rintro ⟨records, hstreams, hsound⟩
      exact ⟨_, ofReport_ok_iff.2 ⟨records, hstreams, defect?_eq_none_iff_pairwise.2 hsound, rfl⟩⟩
  · rw [ofReport_error_iff]
    refine or_congr_right ⟨?_, ?_⟩
    · rintro ⟨records, defect, hstreams, hdefect, hfault⟩
      obtain ⟨place, hfirst⟩ := defect?_eq_some_iff.1 hdefect
      exact ⟨records, place, defect, hstreams, hfirst, hfault⟩
    · rintro ⟨records, place, defect, hstreams, hfirst, hfault⟩
      exact ⟨records, defect, hstreams, defect?_eq_some_iff.2 ⟨place, hfirst⟩, hfault⟩

/-- A film with a font attached. Its subtitle has a width, and tells its number of frames. -/
def attachedFont : List StreamRecord :=
  [{ index := some 4, codecType := some "audio", duration := some (.string "5400.5") },
    { index := some 2, codecType := some "attachment", codec := some "ttf" },
    { index := some 0, codecType := some "video", width := some 1920 },
    { index := some 3, codecType := some "subtitle", width := some 720,
      tags := [("NUMBER_OF_FRAMES", .number (.natural 1000))] }]

/-- The font is no track, and the length of each track is finite. -/
theorem ofReport_partitions_attachedFont :
    ∃ catalog, ofReport ⟨some attachedFont⟩ = .ok catalog ∧ IsPartition attachedFont catalog ∧
      catalog.tracks.length = 3 ∧
      ∀ track ∈ catalog.tracks, ∀ length, track.length? = some length → length.isFinite = true := by
  obtain ⟨haccepted, hpartition, -⟩ := ofReport_partitions ⟨some attachedFont⟩
  obtain ⟨catalog, hcatalog⟩ := haccepted.2 ⟨attachedFont, rfl, by decide, by decide⟩
  obtain ⟨records, hrecords, hpartition⟩ := hpartition catalog hcatalog
  cases hrecords
  have hsized : ∀ record ∈ attachedFont, record.IsSized := by
    simp [attachedFont, StreamRecord.IsSized]
  exact ⟨catalog, hcatalog, hpartition, hpartition.length_eq.trans (by decide),
    hpartition.isFinite_length? hsized⟩

end Catalog

end TrackSelect
