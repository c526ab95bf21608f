import TrackSelect.Proofs.Ingest.CaptionPath

/-!
# Runs of caption making

What caption making can do at a track, said once: a track with a text is kept as it is, a bitmap
subtitle is kept with the file that its cues were written to, or it is dropped, and then nothing was
written. `CaptionRun` has a constructor for each, and caption making that comes to an end is such
a run (`captionRun_of_captionAll`).
-/

namespace TrackSelect

namespace Ingest

variable {σ : Type} (tools : Toolbox σ) (settings : Settings) (media : String)

/-- A run of caption making in some world: what is kept of the tracks, and the last world. -/
inductive CaptionRun : World σ → List Track → List Track → World σ → Prop where
  | done (world : World σ) : CaptionRun world [] [] world
  /-- A track with a text needs no caption file. -/
  | text {world last : World σ} {track : Track} {rest kept : List Track}
    (text : track.isImage settings.imageCodecs = false) (others : CaptionRun world rest kept last) :
    CaptionRun world (track :: rest) (track :: kept) last
  /-- The dump of a bitmap subtitle has cues, and they are written. -/
  | stored {world after last : World σ} {track : Track} {rest kept : List Track} {dump : String}
    {cues : List Cue} {disk : Disk} (image : track.isImage settings.imageCodecs = true)
    (extracted : tools.extract media (.ocr track.index) world = (.ok dump, after))
    (read : OcrDump.cues dump = .ok cues) (filled : cues ≠ [])
    (stored : storeCaptions settings media track.index cues after.disk = (.ok (), disk))
    (made : makeCaptions tools settings media track.index world =
      (.ok (captionPath settings media track.index), { after with disk }))
    (others : CaptionRun { after with disk } rest kept last) :
    CaptionRun world (track :: rest)
      ({ track with captions := some (captionPath settings media track.index) } :: kept) last
  /-- A bitmap subtitle is dropped as soon as its dump turns out to be of no use. -/
  | dropped {world after last : World σ} {track : Track} {rest kept : List Track} {fault : Fault}
    (image : track.isImage settings.imageCodecs = true)
    (failed : makeCaptions tools settings media track.index world = (.error fault, after))
    (cheap : (dropped? track.index fault).isSome)
    (extracted : (tools.extract media (.ocr track.index) world).2 = after)
    (others : CaptionRun after rest kept last) : CaptionRun world (track :: rest) kept last

variable {tools settings media}

/-! ## One caption file -/

/-- A caption file that cannot be stored is a fault of the disk. -/
theorem isOfDisk_of_storeCaptions {track : Nat} {cues : List Cue} {disk after : Disk} {fault : Fault}
    (h : storeCaptions settings media track cues disk = (.error fault, after)) :
    fault.isOfDisk := by
  have hfolders := Disk.makeFolders_foldered disk (captionFolder settings media)
  unfold storeCaptions at h
  split at h
  · next cause hcause =>
    cases h
    rwa [hcause] at hfolders
  · next between _ =>
    split at h
    · next cause hcause =>
      cases h
      exact Disk.isOfDisk_of_store hcause
    · cases h

/-- A fault of the disk is not one that costs no more than a track. -/
theorem dropped?_of_isOfDisk {fault : Fault} (h : fault.isOfDisk = true) (track : Nat) :
    dropped? track fault = none := by
  cases fault with
  | system _ => rfl
  | unusablePath => rfl
  | _ => cases h

/-- A caption file that is made holds the cues of the dump. -/
theorem makeCaptions_ok {track : Nat} {world last : World σ} {path : String}
    (h : makeCaptions tools settings media track world = (.ok path, last)) :
    path = captionPath settings media track ∧ ∃ dump after cues disk,
      tools.extract media (.ocr track) world = (.ok dump, after) ∧
      OcrDump.cues dump = .ok cues ∧ cues ≠ [] ∧
      storeCaptions settings media track cues after.disk = (.ok (), disk) ∧
      last = { after with disk } := by
  unfold makeCaptions at h
  split at h
  · cases h
  · next dump after hextract =>
    split at h
    · cases h
    · cases h
    · next cues hsome hcues =>
      split at h
      · cases h
      · next disk hstore =>
        cases h
        exact ⟨rfl, dump, after, cues, disk, hextract, hcues, hsome, hstore, rfl⟩

/-- For a track that is dropped nothing is done but the extraction. -/
theorem makeCaptions_dropped {track : Nat} {world last : World σ} {fault failure : Fault}
    (h : makeCaptions tools settings media track world = (.error fault, last))
    (hdropped : dropped? track fault = some failure) :
    (tools.extract media (.ocr track) world).2 = last := by
  unfold makeCaptions at h
  split at h
  · next hextract =>
    cases h
    rw [hextract]
  · next dump after hextract =>
    rw [hextract]
    split at h
    · cases h
      rfl
    · cases h
      rfl
    · split at h
      · next cause disk hstore =>
        cases h
        rw [dropped?_of_isOfDisk (isOfDisk_of_storeCaptions hstore)] at hdropped
        cases hdropped
      · cases h

/-! ## All caption files -/

/-- **Caption making that comes to an end is a run.** -/
theorem captionRun_of_captionAll (tracks : List Track) :
    ∀ {sofar captioned : Captioned} {world last : World σ},
      captionAll tools settings media sofar world tracks = (.ok captioned, last) →
      ∃ kept, captioned.kept = sofar.kept ++ kept ∧
        CaptionRun tools settings media world tracks kept last := by
  induction tracks with
  | nil =>
    intro sofar captioned world last h
    cases h
    exact ⟨[], by simp, .done world⟩
  | cons track rest ih =>
    intro sofar captioned world last h
    rw [captionAll] at h
    split at h
    next htext =>
      obtain ⟨kept, hkept, hrun⟩ := ih h
      exact ⟨track :: kept, by simpa using hkept, .text (by simpa using htext) hrun⟩
    next himage =>
      have himage : track.isImage settings.imageCodecs = true := by simpa using himage
      split at h
      next path after hmade =>
        obtain ⟨rfl, dump, extracted, cues, disk, hextract, hcues, hsome, hstore, rfl⟩ :=
          makeCaptions_ok hmade
        obtain ⟨kept, hkept, hrun⟩ := ih h
        exact ⟨_ :: kept, by simpa using hkept,
          .stored himage hextract hcues hsome hstore hmade hrun⟩
      next fault after hmade =>
        split at h
        next failure hdropped =>
          obtain ⟨kept, hkept, hrun⟩ := ih h
          exact ⟨kept, hkept, .dropped himage hmade (Option.isSome_of_eq_some hdropped)
            (makeCaptions_dropped hmade hdropped) hrun⟩
        next => cases h

end Ingest

end TrackSelect
