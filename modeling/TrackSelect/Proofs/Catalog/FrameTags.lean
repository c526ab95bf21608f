import Mathlib.Data.List.Nodup
import Mathlib.Tactic.Tauto
import TrackSelect.Proofs.Catalog.Partition

/-!
# Where the length of a track comes from

A record tells the length of its track by a finite number of seconds, or by a tag with the number of
frames. Several tags may be named for the frames, and only the first of them is looked at. So a tag
that tells the frames counts as long as none before it is named for them and does not
(`isSome_frameCount?_iff`), and a track has a length when its record tells one that no tag hides.
All of this is in `length_defined_iff`.
-/

namespace TrackSelect

namespace StreamRecord

/-! ## What a record tells -/

/-- The binary64 number that stands for a number of a JSON text. -/
def toBinary64 : Json.Number → Binary64
  | .natural n => Binary64.ofNat n
  | .negative n => Binary64.ofRatio true n 1
  | .float x => x

/-- A finite number, or the text of one with blanks around it. -/
def TellsSeconds : Json → Prop
  | .number x => (toBinary64 x).isFinite = true
  | .string text => ∃ x, Binary64.read? (Text.trim text.toList) = some x ∧ x.isFinite = true
  | _ => False

/-- A whole number of 64 bits, or the text of one with blanks around it: digits, with a plus sign in
front of them or none. -/
def TellsFrames : Json → Prop
  | .number (.natural n) => n < twoTo 64
  | .string text =>
    ∃ digits, (Text.trim text.toList = digits ∨ Text.trim text.toList = '+' :: digits) ∧
      digits ≠ [] ∧ (∀ c ∈ digits, c.isDigit = true) ∧ Nat.ofDigitChars 10 digits 0 < twoTo 64
  | _ => False

/-- The names of the tags for the number of frames: one of its own, and those that have a hyphen and
more behind it. -/
def NamesFrames (name : String) : Prop :=
  name = "NUMBER_OF_FRAMES" ∨ ∃ suffix, name = "NUMBER_OF_FRAMES-" ++ suffix

/-- The declared length is a finite number of seconds. -/
def HasSeconds (record : StreamRecord) : Prop :=
  ∃ duration, record.duration = some duration ∧ TellsSeconds duration

/-- Some tag tells the number of frames. -/
def HasFrames (record : StreamRecord) : Prop :=
  ∃ tag ∈ record.tags, NamesFrames tag.1 ∧ TellsFrames tag.2

/-- The first tag that is named for the frames does not tell their number, but another one behind
it does. -/
def HidesFrames (record : StreamRecord) : Prop :=
  ∃ front tag behind, record.tags = front ++ tag :: behind ∧
    (∀ other ∈ front, ¬ NamesFrames other.1) ∧ NamesFrames tag.1 ∧ ¬ TellsFrames tag.2 ∧
    ∃ later ∈ behind, NamesFrames later.1 ∧ TellsFrames later.2

/-! ## Seconds -/

theorem isSome_declaredLength?_iff {record : StreamRecord} :
    record.declaredLength?.isSome = true ↔ record.HasSeconds := by
  unfold declaredLength? HasSeconds
  cases record.duration with
  | none => simp
  | some duration =>
    cases duration with
    | number x => cases x <;> simp [TellsSeconds, toBinary64, Option.isSome_filter]
    | string text => simp [TellsSeconds, Option.isSome_filter, Option.any_eq_true]
    | null | bool | array | object => simp [TellsSeconds]

/-! ## Frames -/

theorem isFrameTag_iff {name : String} : isFrameTag name = true ↔ NamesFrames name := by
  have hhyphen : "NUMBER_OF_FRAMES".toList ++ ['-'] = "NUMBER_OF_FRAMES-".toList := by decide
  unfold isFrameTag frameTag
  rw [hhyphen]
  simp only [Bool.or_eq_true, beq_iff_eq, List.isPrefixOf_iff_prefix]
  refine or_congr String.toList_inj ⟨?_, ?_⟩
  · rintro ⟨suffix, hsuffix⟩
    have hback : (String.ofList suffix).toList = suffix := String.toList_ofList
    refine ⟨String.ofList suffix, String.toList_inj.1 (hsuffix.symm.trans ?_)⟩
    rw [String.toList_append, hback]
  · rintro ⟨suffix, rfl⟩
    exact ⟨suffix.toList, String.toList_append.symm⟩

/-- The first tag that is named for the frames is the only one that is looked at. -/
theorem isSome_frameCount?_of_find? {record : StreamRecord} (hsized : record.IsSized)
    {tag : String × Json} (h : record.tags.find? (isFrameTag ·.1) = some tag) :
    record.frameCount?.isSome = true ↔ TellsFrames tag.2 := by
  obtain ⟨name, value⟩ := tag
  have hmem := List.mem_of_find?_eq_some h
  unfold frameCount?
  rw [h]
  cases value with
  | string text =>
    simp only [TellsFrames, Option.isSome_iff_exists, Text.unsigned?_eq_some]
    generalize Text.trim text.toList = cs
    constructor
    · rintro ⟨_, ⟨hne, hall⟩ | ⟨hne, hall⟩, hlow⟩
      · exact ⟨_, .inl rfl, hne, hall, hlow⟩
      · exact ⟨_, .inr rfl, hne, hall, hlow⟩
    · rintro ⟨digits, rfl | rfl, hne, hall, hlow⟩
      · exact ⟨_, .plain hne hall, hlow⟩
      · exact ⟨_, .signed hne hall, hlow⟩
  | number x =>
    cases x with
    | natural n => simpa [TellsFrames] using hsized _ hmem n rfl
    | negative | float => simp [TellsFrames]
  | null | bool | array | object => simp [TellsFrames]

/-- Without a tag that is named for the frames, no tag tells their number. -/
theorem not_hasFrames_of_find? {record : StreamRecord}
    (h : record.tags.find? (isFrameTag ·.1) = none) : ¬ record.HasFrames := by
  rintro ⟨tag, htag, hname, -⟩
  exact List.find?_eq_none.1 h tag htag (isFrameTag_iff.2 hname)

/-- The number of frames is hidden when some tag tells it, but not the first that is named so. -/
theorem hidesFrames_iff_of_find? {record : StreamRecord} {tag : String × Json}
    (h : record.tags.find? (isFrameTag ·.1) = some tag) :
    record.HidesFrames ↔ record.HasFrames ∧ ¬ TellsFrames tag.2 := by
  constructor
  · rintro ⟨front, first, behind, htags, hfront, hname, htells, later, hlater, hboth⟩
    have hfirst : record.tags.find? (isFrameTag ·.1) = some first := by
      rw [List.find?_eq_some_iff_append]
      refine ⟨isFrameTag_iff.2 hname, front, behind, htags, fun other hother => ?_⟩
      rw [Bool.not_eq_true', ← Bool.not_eq_true, isFrameTag_iff]
      exact hfront other hother
    cases h.symm.trans hfirst
    refine ⟨⟨later, ?_, hboth⟩, htells⟩
    rw [htags]
    exact List.mem_append_right front (List.mem_cons_of_mem _ hlater)
  · rintro ⟨⟨later, hlater, hname, htells⟩, hfirst⟩
    obtain ⟨htag, front, behind, htags, hfront⟩ := List.find?_eq_some_iff_append.1 h
    have hplain : ∀ other ∈ front, ¬ NamesFrames other.1 := by
      intro other hother
      rw [← isFrameTag_iff, Bool.not_eq_true, ← Bool.not_eq_true']
      exact hfront other hother
    refine ⟨front, tag, behind, htags, hplain, isFrameTag_iff.1 htag, hfirst, later, ?_, hname,
      htells⟩
    -- the tag that tells is neither one of those in front, nor the first itself
    rw [htags] at hlater
    rcases List.mem_append.1 hlater with hmem | hmem
    · exact absurd hname (hplain later hmem)
    · rcases List.mem_cons.1 hmem with rfl | hmem
      · exact absurd htells hfirst
      · exact hmem

/-- **A number of frames counts when no tag hides it.** -/
theorem isSome_frameCount?_iff {record : StreamRecord} (hsized : record.IsSized) :
    record.frameCount?.isSome = true ↔ record.HasFrames ∧ ¬ record.HidesFrames := by
  cases hfind : record.tags.find? (isFrameTag ·.1) with
  | none =>
    have hnone : record.frameCount? = none := by
      unfold frameCount?
      rw [hfind]
    simp [hnone, not_hasFrames_of_find? hfind]
  | some tag =>
    have hfirst : TellsFrames tag.2 → record.HasFrames := fun htells =>
      ⟨tag, List.mem_of_find?_eq_some hfind,
        isFrameTag_iff.1 (List.find?_eq_some_iff_append.1 hfind).1, htells⟩
    rw [isSome_frameCount?_of_find? hsized hfind, hidesFrames_iff_of_find? hfind]
    constructor
    · exact fun htells => ⟨hfirst htells, fun hhides => hhides.2 htells⟩
    · rintro ⟨hhas, hnot⟩
      by_contra htells
      exact hnot ⟨hhas, htells⟩

/-- What hides a number of frames is a tag that tells it. -/
theorem HidesFrames.hasFrames {record : StreamRecord} (h : record.HidesFrames) :
    record.HasFrames := by
  obtain ⟨front, tag, behind, htags, -, -, -, later, hlater, hboth⟩ := h
  refine ⟨later, ?_, hboth⟩
  rw [htags]
  exact List.mem_append_right front (List.mem_cons_of_mem _ hlater)

end StreamRecord

/-! ## Lengths -/

/-- The length of a track is that of its record. -/
theorem Describes.isSome_length?_iff {kind : Kind} {record : StreamRecord} {track : Track}
    (h : Describes kind record track) (hsized : record.IsSized) :
    track.length?.isSome = true ↔
      record.HasSeconds ∨ (record.HasFrames ∧ ¬ record.HidesFrames) := by
  unfold Track.length?
  rw [h.duration_eq, h.frames_eq, Option.isSome_or, Option.isSome_map, Bool.or_eq_true,
    StreamRecord.isSome_declaredLength?_iff, StreamRecord.isSome_frameCount?_iff hsized]

namespace Catalog

/-- **A track has a length when its record tells one that no tag hides.** So all records that tell
a length have one, but those without a finite number of seconds of which the first tag named for the
frames does not tell their number. -/
theorem length_defined_iff {records : List StreamRecord} {catalog : Catalog}
    (h : ofReport ⟨some records⟩ = .ok catalog) {record : StreamRecord} (hrecord : record ∈ records)
    (hsized : record.IsSized) {track : Track} (htrack : track ∈ catalog.tracks)
    (hindex : record.index = some track.index) :
    (track.length?.isSome = true ↔
      record.HasSeconds ∨ (record.HasFrames ∧ ¬ record.HidesFrames)) ∧
    ((track.length?.isSome = true ↔ record.HasSeconds ∨ record.HasFrames) ↔
      record.HasSeconds ∨ ¬ record.HidesFrames) := by
  have hlength : track.length?.isSome = true ↔
      record.HasSeconds ∨ (record.HasFrames ∧ ¬ record.HidesFrames) := by
    obtain ⟨_, hstreams, hpartition⟩ := isPartition_of_ok h
    cases hstreams
    obtain ⟨kind, hkind⟩ := mem_tracks_iff.1 htrack
    obtain ⟨source, hsource, hdescribes⟩ := exists_describes (hpartition.describes kind) hkind
    have hdistinct : (records.map StreamRecord.index).Nodup := by
      obtain ⟨_, hstreams, hdefect, -⟩ := ofReport_ok_iff.1 h
      cases hstreams
      exact List.pairwise_map.2 (defect?_eq_none_iff_pairwise.1 hdefect).2
    obtain rfl := List.inj_on_of_nodup_map hdistinct hrecord hsource
      (hindex.trans hdescribes.index_eq.symm)
    exact hdescribes.isSome_length?_iff hsized
  refine ⟨hlength, ?_⟩
  have hhas : record.HidesFrames → record.HasFrames := StreamRecord.HidesFrames.hasFrames
  rw [hlength]
  tauto

/-- A sound track whose declared length is no number, with a tag that tells its frames in front of
one that does not. -/
def tellingTags : StreamRecord where
  index := some 1
  codecType := some "audio"
  duration := some (.string "inf")
  tags := [("NUMBER_OF_FRAMES", .string " +1500\n"), ("NUMBER_OF_FRAMES-eng", .null)]

theorem length_defined_tellingTags :
    ∃ catalog, ofReport ⟨some [tellingTags]⟩ = .ok catalog ∧ tellingTags ∈ [tellingTags] ∧
      tellingTags.IsSized ∧ ∃ track ∈ catalog.tracks, tellingTags.index = some track.index ∧
        track.length?.isSome = true := by
  have hsized : tellingTags.IsSized := by simp [tellingTags, StreamRecord.IsSized]
  have hcatalog : ofReport ⟨some [tellingTags]⟩ = .ok ⟨[], tracksOf .audio [tellingTags], []⟩ := rfl
  have htrack : ⟨1, .audio, "unknown", none, none, some 1500, none, none⟩ ∈
      (⟨[], tracksOf .audio [tellingTags], []⟩ : Catalog).tracks := by decide
  have hnames : StreamRecord.NamesFrames "NUMBER_OF_FRAMES" := .inl rfl
  have htells : StreamRecord.TellsFrames (.string " +1500\n") :=
    ⟨"1500".toList, .inr (by decide), by decide, List.all_eq_true.1 (by decide), by decide⟩
  have hlength := (length_defined_iff hcatalog List.mem_cons_self hsized htrack rfl).1
  refine ⟨_, hcatalog, List.mem_cons_self, hsized, _, htrack, rfl, hlength.2 (.inr ⟨?_, ?_⟩)⟩
  · exact ⟨_, List.mem_cons_self, hnames, htells⟩
  · have hfirst : tellingTags.tags.find? (StreamRecord.isFrameTag ·.1) =
        some ("NUMBER_OF_FRAMES", .string " +1500\n") := rfl
    exact fun hhides => ((StreamRecord.hidesFrames_iff_of_find? hfirst).1 hhides).2 htells

/-- A sound track with two tags named for the frames, of which only the second tells them. -/
def hidingTags : StreamRecord where
  index := some 0
  codecType := some "audio"
  tags := [("NUMBER_OF_FRAMES", .string "n/a"), ("NUMBER_OF_FRAMES-eng", .string "100")]

/-- It has no length, though a tag tells one. -/
theorem not_length_defined_hidingTags :
    ∃ catalog, ofReport ⟨some [hidingTags]⟩ = .ok catalog ∧
      ∃ track ∈ catalog.tracks, hidingTags.index = some track.index ∧
        ¬ (track.length?.isSome = true ↔ hidingTags.HasSeconds ∨ hidingTags.HasFrames) := by
  have hcatalog : ofReport ⟨some [hidingTags]⟩ = .ok ⟨[], tracksOf .audio [hidingTags], []⟩ := rfl
  have htrack : ⟨0, .audio, "unknown", none, none, none, none, none⟩ ∈
      (⟨[], tracksOf .audio [hidingTags], []⟩ : Catalog).tracks := by decide
  have hnames : StreamRecord.NamesFrames "NUMBER_OF_FRAMES-eng" := .inr ⟨"eng", by decide⟩
  have htells : StreamRecord.TellsFrames (.string "100") :=
    ⟨"100".toList, .inl (by decide), by decide, List.all_eq_true.1 (by decide), by decide⟩
  have hframes : hidingTags.HasFrames :=
    ⟨_, List.mem_cons_of_mem _ List.mem_cons_self, hnames, htells⟩
  exact ⟨_, hcatalog, _, htrack, rfl, fun hiff => absurd (hiff.2 (.inr hframes)) (by decide)⟩

end Catalog

end TrackSelect
