import Mathlib.Data.List.Perm.Subperm
import TrackSelect.Proofs.Catalog.Indices
import TrackSelect.Proofs.Ingest.CaptionRun
import TrackSelect.Proofs.Rule.Pool

/-!
# What a successful ingestion returns

An ingestion that succeeds has gone through all its stages (`Stages`), the last of which is a run of
caption making. `IsSelectionOf` says what may be relied on in the selection that comes of them: its
tracks are those of the catalog, each listed once and under its kind, and it is the bitmap subtitles
that have caption files. `run_selection` says this of every ingestion, whatever the settings and the
tools are.
-/

namespace TrackSelect

/-- The track as it was before a caption file was made for it. -/
def Track.uncaptioned (track : Track) : Track := { track with captions := none }

/-- A track without a caption file is as it was. -/
theorem Track.uncaptioned_eq_self {track : Track} (h : track.captions = none) :
    track.uncaptioned = track := by
  rw [Track.uncaptioned, ← h]

/-- So are tracks none of which has one. -/
theorem Track.map_uncaptioned_eq_self {tracks : List Track}
    (h : ∀ track ∈ tracks, track.captions = none) : tracks.map Track.uncaptioned = tracks :=
  (List.map_congr_left fun track htrack => Track.uncaptioned_eq_self (h track htrack)).trans
    (List.map_id tracks)

namespace Ingest

variable {σ : Type} {tools : Toolbox σ} {settings : Settings} {media : String}

/-! ## What caption making keeps -/

namespace CaptionRun

variable {world last : World σ} {tracks kept : List Track}

/-- Some of the tracks are kept, in their order. -/
theorem sublist (h : CaptionRun tools settings media world tracks kept last)
    (hplain : ∀ track ∈ tracks, track.captions = none) :
    (kept.map Track.uncaptioned).Sublist tracks := by
  induction h with
  | done => exact List.Sublist.refl []
  | @text _ _ track _ _ _ _ ih =>
    obtain ⟨hfirst, hplain⟩ := List.forall_mem_cons.1 hplain
    rw [List.map_cons, Track.uncaptioned_eq_self hfirst]
    exact (ih hplain).cons_cons track
  | @stored _ _ _ track _ _ _ _ _ _ _ _ _ _ _ _ ih =>
    obtain ⟨hfirst, hplain⟩ := List.forall_mem_cons.1 hplain
    have hself : Track.uncaptioned { track with
        captions := some (captionPath settings media track.index) } = track :=
      Track.uncaptioned_eq_self hfirst
    rw [List.map_cons, hself]
    exact (ih hplain).cons_cons track
  | @dropped _ _ _ track _ _ _ _ _ _ _ _ ih => exact (ih (List.forall_mem_cons.1 hplain).2).cons track

/-- All tracks with a text are kept. -/
theorem texts (h : CaptionRun tools settings media world tracks kept last) :
    kept.filter (!·.isImage settings.imageCodecs) =
      tracks.filter (!·.isImage settings.imageCodecs) := by
  induction h with
  | done => rfl
  | text htext _ ih => simp [htext, ih]
  | @stored _ _ _ track _ _ _ _ _ himage _ _ _ _ _ _ ih =>
    have hkept : Track.isImage settings.imageCodecs { track with
        captions := some (captionPath settings media track.index) } = true := himage
    simp [himage, hkept, ih]
  | dropped himage _ _ _ _ ih => simp [himage, ih]

/-- The tracks that are kept have caption files where they are bitmap subtitles. -/
theorem captions_eq (h : CaptionRun tools settings media world tracks kept last)
    (hplain : ∀ track ∈ tracks, track.captions = none) :
    ∀ track ∈ kept, track.captions =
      if track.isImage settings.imageCodecs then some (captionPath settings media track.index)
      else none := by
  induction h with
  | done => simp
  | @text _ _ first _ _ htext _ ih =>
    obtain ⟨hfirst, hplain⟩ := List.forall_mem_cons.1 hplain
    refine List.forall_mem_cons.2 ⟨?_, ih hplain⟩
    rw [hfirst, if_neg (by simp [htext])]
  | stored himage _ _ _ _ _ _ ih =>
    refine List.forall_mem_cons.2 ⟨(if_pos himage).symm, ih (List.forall_mem_cons.1 hplain).2⟩
  | dropped _ _ _ _ _ ih => exact ih (List.forall_mem_cons.1 hplain).2

end CaptionRun

/-! ## The stages -/

variable (tools settings media) in
/-- The stages of an ingestion that succeeds: what each of them comes to, and the world after the
last one. -/
structure Stages (world : World σ) (selection : Selection) (report : ProbeReport)
    (probed : World σ) (catalog : Catalog) (picks : Picks) (picked last : World σ) : Prop where
  probe : tools.probe media world = (.ok report, probed)
  listed : Catalog.ofReport report = .ok catalog
  video : settings.video.select catalog.video = .ok selection.video
  audio : settings.audio.select catalog.audio = .ok selection.audio
  select : RuleSet.select tools (searchSetting settings media) settings.subtitle catalog.subtitle
    probed = (.ok picks, picked)
  captioned : CaptionRun tools settings media picked picks.selected selection.subtitle last
  world : (run tools settings media world).2 = last

/-- Subtitles that succeed have been picked and captioned. -/
theorem subtitles_ok {candidates kept : List Track} {searched : List (List Track)}
    {world last : World σ}
    (h : subtitles tools settings media candidates world = (.ok kept, searched, last)) :
    ∃ picks picked,
      RuleSet.select tools (searchSetting settings media) settings.subtitle candidates world =
        (.ok picks, picked) ∧
      CaptionRun tools settings media picked picks.selected kept last := by
  unfold subtitles at h
  split at h
  · cases h
  · next picks picked hselect =>
    split at h
    · cases h
    · next captioned after hmade =>
      obtain ⟨all, hall, hrun⟩ := captionRun_of_captionAll _ hmade
      have hkept : captioned.kept = all := by simpa using hall
      -- what is judged afterwards decides about success, and not about what is kept
      have hresult : captioned.kept = kept ∧ after = last := by
        split at h
        · split at h
          · cases h
          · cases h
            exact ⟨rfl, rfl⟩
        · cases h
          exact ⟨rfl, rfl⟩
      obtain ⟨rfl, rfl⟩ := hresult
      exact ⟨picks, picked, hselect, hkept ▸ hrun⟩

/-- An ingestion stops with a fault after asking for the probe report only, or it goes on and its
subtitles decide. -/
theorem run_cases (tools : Toolbox σ) (settings : Settings) (media : String) (world : World σ) :
    (∃ fault, run tools settings media world =
      (⟨.error fault, []⟩, (tools.probe media world).2)) ∨
    ∃ report probed catalog video audio,
      tools.probe media world = (.ok report, probed) ∧
      Catalog.ofReport report = .ok catalog ∧
      settings.video.select catalog.video = .ok video ∧
      settings.audio.select catalog.audio = .ok audio ∧
      (run tools settings media world).1.outcome =
        (subtitles tools settings media catalog.subtitle probed).1.map (Selection.mk video audio) ∧
      (run tools settings media world).2 =
        (subtitles tools settings media catalog.subtitle probed).2.2 := by
  unfold run
  simp only
  split
  · next fault probed hprobe => exact .inl ⟨fault, by rw [hprobe]⟩
  · next report probed hprobe =>
    split
    · next fault _ => exact .inl ⟨fault, by rw [hprobe]⟩
    · next catalog hlisted =>
      split
      · next fault _ => exact .inl ⟨fault, by rw [hprobe]⟩
      · next video hvideo =>
        split
        · next fault _ => exact .inl ⟨fault, by rw [hprobe]⟩
        · next audio haudio =>
          refine .inr ⟨report, probed, catalog, video, audio, hprobe, hlisted, hvideo, haudio, ?_⟩
          split
          · next fault searched last hsubtitles => simp [hsubtitles, Except.map]
          · next subtitle searched last hsubtitles => simp [hsubtitles, Except.map]

/-- **An ingestion that succeeds has gone through all stages.** -/
theorem run_stages {world : World σ} {selection : Selection}
    (h : (run tools settings media world).1.outcome = .ok selection) :
    ∃ report probed catalog picks picked last,
      Stages tools settings media world selection report probed catalog picks picked last := by
  obtain ⟨fault, hfault⟩ | ⟨report, probed, catalog, video, audio, hprobe, hlisted, hvideo, haudio,
    houtcome, hworld⟩ := run_cases tools settings media world
  · simp [hfault] at h
  · rw [h] at houtcome
    generalize hsubtitles : subtitles tools settings media catalog.subtitle probed = result
      at houtcome hworld
    obtain ⟨outcome, searched, last⟩ := result
    cases outcome with
    | error fault => cases houtcome
    | ok subtitle =>
      cases houtcome
      obtain ⟨picks, picked, hselect, hcaptioned⟩ := subtitles_ok hsubtitles
      exact ⟨report, probed, catalog, picks, picked, last, hprobe, hlisted, hvideo, haudio, hselect,
        hcaptioned, hworld⟩

/-! ## The selection -/

/-- What may be relied on in a selection from a catalog, of whose subtitles some were picked. -/
structure IsSelectionOf (settings : Settings) (catalog : Catalog) (picked : List Track)
    (selection : Selection) : Prop where
  /-- Every track is one of the catalog, under its own kind, but for its caption file. -/
  listed : ∀ kind, ∀ track ∈ selection.ofKind kind,
    track.kind = kind ∧ track.uncaptioned ∈ catalog.ofKind kind
  /-- No index is there twice, whatever the kinds are. -/
  distinct : ((selection.video ++ selection.audio ++ selection.subtitle).map Track.index).Nodup
  video : settings.video.select catalog.video = .ok selection.video
  audio : settings.audio.select catalog.audio = .ok selection.audio
  uncaptioned : ∀ track ∈ selection.video ++ selection.audio, track.captions = none
  /-- Subtitles come in the order in which they were picked. -/
  subtitle : (selection.subtitle.map Track.uncaptioned).Sublist picked
  /-- Every pick that is no bitmap subtitle is kept. -/
  texts : selection.subtitle.filter (!·.isImage settings.imageCodecs) =
    picked.filter (!·.isImage settings.imageCodecs)
  /-- It is the bitmap subtitles that have caption files. -/
  captions : ∀ track ∈ selection.subtitle,
    track.captions.isSome ↔ track.isImage settings.imageCodecs

namespace Stages

variable {world probed picked last : World σ} {selection : Selection} {report : ProbeReport}
  {catalog : Catalog} {picks : Picks}

/-- Subtitles are picked from those of the catalog. -/
theorem picks_subperm
    (h : Stages tools settings media world selection report probed catalog picks picked last) :
    picks.selected.Subperm catalog.subtitle := by
  obtain ⟨picks', picked', hselect, -, hpart⟩ := RuleSet.select_subperm tools
    (searchSetting settings media) settings.subtitle probed (Catalog.subtitle_nodup h.listed)
  cases h.select.symm.trans hselect
  exact hpart

/-- None of them has a caption file yet. -/
theorem picks_uncaptioned
    (h : Stages tools settings media world selection report probed catalog picks picked last) :
    ∀ track ∈ picks.selected, track.captions = none := fun _ htrack =>
  (Catalog.kind_of_mem_ofKind h.listed .subtitle (h.picks_subperm.subset htrack)).2

/-- No other track ever has one. -/
theorem uncaptioned
    (h : Stages tools settings media world selection report probed catalog picks picked last) :
    ∀ track ∈ selection.video ++ selection.audio, track.captions = none := by
  intro track htrack
  rcases List.mem_append.1 htrack with hvideo | haudio
  · have hlisted := (Chain.narrow_sublist h.video).subset hvideo
    exact (Catalog.kind_of_mem_ofKind h.listed .video hlisted).2
  · have hlisted := (Chain.narrow_sublist h.audio).subset haudio
    exact (Catalog.kind_of_mem_ofKind h.listed .audio hlisted).2

/-- But for caption files, what is selected of a kind is part of the catalog. -/
theorem ofKind_subperm
    (h : Stages tools settings media world selection report probed catalog picks picked last)
    (kind : Kind) :
    ((selection.ofKind kind).map Track.uncaptioned).Subperm (catalog.ofKind kind) := by
  have hplain := h.uncaptioned
  cases kind with
  | video =>
    have hself := Track.map_uncaptioned_eq_self fun track htrack =>
      hplain track (List.mem_append_left selection.audio htrack)
    exact hself ▸ (Chain.narrow_sublist h.video).subperm
  | audio =>
    have hself := Track.map_uncaptioned_eq_self fun track htrack =>
      hplain track (List.mem_append_right selection.video htrack)
    exact hself ▸ (Chain.narrow_sublist h.audio).subperm
  | subtitle => exact (h.captioned.sublist h.picks_uncaptioned).subperm.trans h.picks_subperm

/-- No index is selected twice, since none is in the catalog twice. -/
theorem distinct
    (h : Stages tools settings media world selection report probed catalog picks picked last) :
    ((selection.video ++ selection.audio ++ selection.subtitle).map Track.index).Nodup := by
  have hall := ((h.ofKind_subperm .video).append (h.ofKind_subperm .audio)).append
    (h.ofKind_subperm .subtitle)
  have hdistinct := RuleSet.nodup_of_subperm hall (Catalog.tracks_nodup h.listed)
  rwa [← List.map_append, ← List.map_append, List.map_map] at hdistinct

end Stages

/-- **What a successful ingestion returns.** Whatever the settings and the tools are, a selection
that an ingestion returns is one of the catalog of the probe report and of the picks of the
rule-sets. -/
theorem run_selection {world : World σ} {selection : Selection}
    (h : (run tools settings media world).1.outcome = .ok selection) :
    ∃ report probed catalog picks picked,
      tools.probe media world = (.ok report, probed) ∧
      Catalog.ofReport report = .ok catalog ∧
      RuleSet.select tools (searchSetting settings media) settings.subtitle catalog.subtitle probed =
        (.ok picks, picked) ∧
      IsSelectionOf settings catalog picks.selected selection := by
  obtain ⟨report, probed, catalog, picks, picked, last, hstages⟩ := run_stages h
  refine ⟨report, probed, catalog, picks, picked, hstages.probe, hstages.listed, hstages.select, ?_⟩
  constructor
  case listed =>
    intro kind track htrack
    have hlisted := (hstages.ofKind_subperm kind).subset (List.mem_map_of_mem htrack)
    exact ⟨(Catalog.kind_of_mem_ofKind hstages.listed kind hlisted).1, hlisted⟩
  case distinct => exact hstages.distinct
  case video => exact hstages.video
  case audio => exact hstages.audio
  case uncaptioned => exact hstages.uncaptioned
  case subtitle => exact hstages.captioned.sublist hstages.picks_uncaptioned
  case texts => exact hstages.captioned.texts
  case captions =>
    intro track htrack
    rw [hstages.captioned.captions_eq hstages.picks_uncaptioned track htrack]
    cases track.isImage settings.imageCodecs <;> simp

/-- A film with a picture, a sound track and three English subtitles, two of which are bitmaps. -/
def threeSubtitles : List StreamRecord :=
  [{ index := some 0, codecType := some "video", codec := some "h264", width := some 1920 },
    { index := some 1, codecType := some "audio", codec := some "aac",
      tags := [("language", .string "eng")] },
    { index := some 2, codecType := some "subtitle", codec := some "xsub",
      tags := [("language", .string "eng")] },
    { index := some 3, codecType := some "subtitle", codec := some "subrip",
      tags := [("language", .string "eng")] },
    { index := some 4, codecType := some "subtitle", codec := some "xsub",
      tags := [("language", .string "eng")] }]

/-- A dump with one caption. -/
def shortDump : String :=
  "frame:0 pts_time:1\nlavfi.ocr.text=A\nframe:1 pts_time:2\nlavfi.ocr.text=\n"

/-- A dump whose first marker has no text line. -/
def textlessDump : String := "frame:0 pts_time:1\nframe:1 pts_time:2\n"

/-- The first bitmap subtitle of that film has one caption, and the dump of the other is malformed. -/
def threeTexts : Answers where
  probe := .ok ⟨some threeSubtitles⟩
  transcript track := .error (.extraction track "no text")
  ocr track := .ok (if track = 2 then shortDump else textlessDump)

/-- Settings that take all English subtitles. -/
def allEnglish : Settings := { Settings.default with subtitle := [⟨"all", [.language ["eng"]]⟩] }

/-- What a part of an outcome tells of it. -/
theorem exists_ok_of_map {α β : Type} {outcome : Except Fault α} {part : α → β} {value : β}
    (h : outcome.toOption.map part = some value) : ∃ a, outcome = .ok a ∧ part a = value := by
  cases outcome with
  | error fault => cases h
  | ok a => exact ⟨a, rfl, Option.some.inj h⟩

/-- The first subtitle gets its caption file, the text is kept as it is, and the last subtitle is
dropped. -/
theorem run_selection_threeTexts : ∃ selection catalog picks,
    (run (.scripted threeTexts) allEnglish "film.mkv" ⟨.fresh, []⟩).1.outcome = .ok selection ∧
      selection.subtitle.map (fun track => (track.index, track.captions)) =
        [(2, some "film.2.srt"), (3, none)] ∧
      IsSelectionOf allEnglish catalog picks selection := by
  have hrun : (run (.scripted threeTexts) allEnglish "film.mkv" ⟨.fresh, []⟩).1.outcome.toOption.map
      (fun selection => selection.subtitle.map fun track => (track.index, track.captions)) =
        some [(2, some "film.2.srt"), (3, none)] := by
    decide +kernel
  obtain ⟨selection, hselection, hcaptions⟩ := exists_ok_of_map hrun
  obtain ⟨report, probed, catalog, picks, picked, -, -, -, hof⟩ := run_selection hselection
  exact ⟨selection, catalog, picks.selected, hselection, hcaptions, hof⟩

end Ingest

end TrackSelect
