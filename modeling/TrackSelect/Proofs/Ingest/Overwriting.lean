import TrackSelect.Proofs.Ingest.Writing

/-!
# What becomes of caption files

Ingestions that come later may write over the caption files of one that has succeeded. What they
write are caption files of their own, whether they succeed or fail in the end: `stored` tells for
which tracks an ingestion writes one, and nothing else on the disk is written at (`run_writesOnly`).
A caption file is named by a stem and an index, so one that no longer holds what was written has been
written over for a track of the same index of a media file of the same stem, whose caption files go
to the same folder (`runAll_captions`).

Media files that differ in their extensions only are such files: the caption files of the one are
those of the other (`captions_overwritten`).
-/

namespace TrackSelect.Ingest

variable {σ : Type} {tools : Toolbox σ} {settings : Settings} {media : String}

/-! ## Writing caption files only -/

/-- Nothing is written between two moments but the caption files of some tracks of media files. -/
def WritesOnly (settings : Settings) (files : List (String × Nat)) (before after : Disk) : Prop :=
  ∃ places, before.Spares places after ∧
    ∀ place ∈ places, ∃ file ∈ files, after.locate (captionPath settings file.1 file.2) = .ok place

namespace WritesOnly

variable {files others : List (String × Nat)} {before between after : Disk}

theorem refl (settings : Settings) (disk : Disk) : WritesOnly settings [] disk disk :=
  ⟨[], Disk.Spares.refl disk, by simp⟩

theorem trans (h₁ : WritesOnly settings files before between)
    (h₂ : WritesOnly settings others between after) :
    WritesOnly settings (files ++ others) before after := by
  obtain ⟨places₁, hspares₁, hfiles₁⟩ := h₁
  obtain ⟨places₂, hspares₂, hfiles₂⟩ := h₂
  refine ⟨places₁ ++ places₂, hspares₁.trans hspares₂, fun place hplace => ?_⟩
  rcases List.mem_append.1 hplace with hfirst | hsecond
  · obtain ⟨file, hfile, hlocated⟩ := hfiles₁ place hfirst
    exact ⟨file, List.mem_append_left _ hfile, Disk.locate_grows hspares₂.toGrows hlocated⟩
  · obtain ⟨file, hfile, hlocated⟩ := hfiles₂ place hsecond
    exact ⟨file, List.mem_append_right _ hfile, hlocated⟩

/-- It does not matter what else is taken for written. -/
theorem mono (h : WritesOnly settings files before after) (hsub : files ⊆ others) :
    WritesOnly settings others before after := by
  obtain ⟨places, hspares, hfiles⟩ := h
  refine ⟨places, hspares, fun place hplace => ?_⟩
  obtain ⟨file, hfile, hlocated⟩ := hfiles place hplace
  exact ⟨file, hsub hfile, hlocated⟩

/-- The disk has grown. -/
theorem grows (h : WritesOnly settings files before after) : before.Grows after := by
  obtain ⟨places, hspares, -⟩ := h
  exact hspares.toGrows

/-- A disk goes on keeping captions. -/
theorem keepsCaptions (h : WritesOnly settings files before after)
    (hkeeps : KeepsCaptions media before) : KeepsCaptions media after := by
  obtain ⟨places, hspares, -⟩ := h
  exact hkeeps.spared hspares

/-- **A caption file is as it was, or it was written at** for the same track of a media file of the
same stem. -/
theorem read?_or (h : WritesOnly settings files before after) {track : Nat} {place : Place}
    (hplace : before.locate (captionPath settings media track) = .ok place) :
    after.read? place = before.read? place ∨
      ∃ other, (other, track) ∈ files ∧ Path.stem other = Path.stem media ∧
        after.locate (captionPath settings other track) = .ok place := by
  have hgrows := h.grows
  obtain ⟨places, hspares, hfiles⟩ := h
  by_cases hmem : place ∈ places
  · obtain ⟨⟨other, index⟩, hfile, hlocated⟩ := hfiles place hmem
    -- the two paths lead to one place, so they end in the same name
    have hnames := (captionPlace_name hlocated).symm.trans (captionPlace_name (Disk.locate_grows hgrows hplace))
    obtain ⟨hstem, rfl⟩ := captionName_inj (Option.some.inj hnames)
    exact Or.inr ⟨other, hfile, hstem, hlocated⟩
  · exact Or.inl (hspares.read? place hmem)

end WritesOnly

/-! ## One ingestion -/

/-- The caption file that is stored when an attempt at it succeeds. -/
def filesOf {α : Type} (media : String) (track : Nat) : Except Fault α → List (String × Nat)
  | .ok _ => [(media, track)]
  | .error _ => []

/-- Storing a caption file writes nothing else, and nothing at all if it fails. -/
theorem storeCaptions_writesOnly {track : Nat} {cues : List Cue} {disk after : Disk}
    {outcome : Except Fault Unit}
    (h : storeCaptions settings media track cues disk = (outcome, after)) :
    WritesOnly settings (filesOf media track outcome) disk after := by
  have hfolders := Disk.makeFolders_foldered disk (captionFolder settings media)
  unfold storeCaptions at h
  split at h
  · cases h
    exact WritesOnly.refl settings _
  · next between hbetween =>
    rw [hbetween] at hfolders
    split at h
    · cases h
      exact ⟨[], hfolders, by simp⟩
    · next hstored =>
      cases h
      obtain ⟨places, hspares, hplaces⟩ := Disk.store_spares hstored
      refine ⟨[] ++ places, hfolders.trans hspares, fun place hplace => ?_⟩
      exact ⟨_, List.mem_singleton_self _, Disk.locate_grows hspares.toGrows (hplaces place hplace)⟩

/-- So does making one. -/
theorem makeCaptions_writesOnly (hleaves : tools.LeavesDisk media) {track : Nat}
    {world after : World σ} {outcome : Except Fault String}
    (h : makeCaptions tools settings media track world = (outcome, after)) :
    WritesOnly settings (filesOf media track outcome) world.disk after.disk := by
  have hleft := hleaves.extract (.ocr track) world
  unfold makeCaptions at h
  split at h
  · next hextract =>
    cases h
    rw [hextract] at hleft
    exact hleft ▸ WritesOnly.refl settings _
  · next hextract =>
    rw [hextract] at hleft
    rw [← hleft]
    split at h
    · cases h
      exact WritesOnly.refl settings _
    · cases h
      exact WritesOnly.refl settings _
    · split at h
      next hstored =>
        cases h
        exact storeCaptions_writesOnly hstored
      next hstored =>
        cases h
        exact storeCaptions_writesOnly hstored

variable (tools settings media) in
/-- The caption files that are stored when captions are made for some tracks. -/
def storedFor (world : World σ) : List Track → List (String × Nat)
  | [] => []
  | track :: rest =>
    if track.isImage settings.imageCodecs then
      match makeCaptions tools settings media track.index world with
      | (.ok _, world) => (media, track.index) :: storedFor world rest
      | (.error fault, world) =>
        if (dropped? track.index fault).isSome then storedFor world rest else []
    else storedFor world rest

/-- They are those of the media file. -/
theorem media_of_mem_storedFor {other : String} {index : Nat} (tracks : List Track) :
    ∀ {world : World σ}, (other, index) ∈ storedFor tools settings media world tracks →
      other = media := by
  induction tracks with
  | nil => exact fun hmem => absurd hmem List.not_mem_nil
  | cons track rest ih =>
    intro world hmem
    rw [storedFor] at hmem
    split_ifs at hmem
    · split at hmem
      · rcases List.mem_cons.1 hmem with hfirst | hrest
        · exact congrArg Prod.fst hfirst
        · exact ih hrest
      · split_ifs at hmem
        · exact ih hmem
        · cases hmem
    · exact ih hmem

/-- Caption making writes the files that it stores and nothing else. -/
theorem captionAll_writesOnly (hleaves : tools.LeavesDisk media) (tracks : List Track) :
    ∀ (sofar : Captioned) (world : World σ),
      WritesOnly settings (storedFor tools settings media world tracks) world.disk
        (captionAll tools settings media sofar world tracks).2.disk := by
  induction tracks with
  | nil => exact fun sofar world => WritesOnly.refl settings world.disk
  | cons track rest ih =>
    intro sofar world
    rw [captionAll, storedFor]
    cases himage : track.isImage settings.imageCodecs with
    | false => simpa using ih _ world
    | true =>
      generalize hmade : makeCaptions tools settings media track.index world = made
      obtain ⟨outcome, after⟩ := made
      have hfirst := makeCaptions_writesOnly hleaves hmade
      cases outcome with
      | ok path => simpa [filesOf] using hfirst.trans (ih _ after)
      | error fault =>
        cases hdropped : dropped? track.index fault with
        | some failure => simpa [filesOf, hdropped] using hfirst.trans (ih _ after)
        | none => simpa [filesOf, hdropped] using hfirst

/-- What is judged after caption making changes nothing in the world. -/
theorem subtitles_world {candidates : List Track} {world picked : World σ} {picks : Picks}
    (h : RuleSet.select tools (searchSetting settings media) settings.subtitle candidates world =
      (.ok picks, picked)) :
    (subtitles tools settings media candidates world).2.2 =
      (captionAll tools settings media {} picked picks.selected).2 := by
  simp only [subtitles, h]
  generalize captionAll tools settings media {} picked picks.selected = made
  obtain ⟨outcome, after⟩ := made
  cases outcome with
  | error fault => rfl
  | ok captioned =>
    dsimp only
    split
    · split_ifs <;> rfl
    · rfl

variable (tools settings media) in
/-- The caption files that an ingestion stores, whether it succeeds or fails in the end. -/
def stored (world : World σ) : List (String × Nat) :=
  match tools.probe media world with
  | (.error _, _) => []
  | (.ok report, probed) =>
    match Catalog.ofReport report with
    | .error _ => []
    | .ok catalog =>
      match settings.video.select catalog.video, settings.audio.select catalog.audio with
      | .ok _, .ok _ =>
        match RuleSet.select tools (searchSetting settings media) settings.subtitle catalog.subtitle
          probed with
        | (.ok picks, picked) => storedFor tools settings media picked picks.selected
        | (.error _, _) => []
      | _, _ => []

theorem media_of_mem_stored {other : String} {index : Nat} {world : World σ}
    (h : (other, index) ∈ stored tools settings media world) : other = media := by
  unfold stored at h
  split at h
  · cases h
  · split at h
    · cases h
    · split at h
      · split at h
        · exact media_of_mem_storedFor _ h
        · cases h
      · cases h

/-- **An ingestion writes the caption files that it stores and nothing else.** -/
theorem run_writesOnly (hleaves : tools.LeavesDisk media) (world : World σ) :
    WritesOnly settings (stored tools settings media world) world.disk
      (run tools settings media world).2.disk := by
  have hprobed := hleaves.probe world
  obtain ⟨fault, hfault⟩ | ⟨report, probed, catalog, video, audio, hprobe, hlisted, hvideo, haudio, -,
    hworld⟩ := run_cases tools settings media world
  · rw [hfault, hprobed]
    exact (WritesOnly.refl settings world.disk).mono (List.nil_subset _)
  · rw [hprobe] at hprobed
    obtain ⟨picks, picked, hselect, -⟩ := RuleSet.run_picks tools (searchSetting settings media)
      settings.subtitle {} probed catalog.subtitle
    have hpicked := select_disk settings hleaves catalog.subtitle probed
    rw [RuleSet.select, hselect] at hpicked
    have hstored : stored tools settings media world =
        storedFor tools settings media picked picks.selected := by
      simp only [stored, hprobe, hlisted, hvideo, haudio, RuleSet.select, hselect]
    rw [hworld, subtitles_world hselect, hstored, ← hprobed, ← hpicked]
    exact captionAll_writesOnly hleaves picks.selected {} picked

/-! ## Ingestions one after the other -/

variable (tools settings) in
/-- The caption files that ingestions store one after the other. -/
def storedAll (world : World σ) : List String → List (String × Nat)
  | [] => []
  | media :: rest =>
    stored tools settings media world ++ storedAll (run tools settings media world).2 rest

theorem media_of_mem_storedAll {other : String} {index : Nat} (medias : List String) :
    ∀ {world : World σ}, (other, index) ∈ storedAll tools settings world medias →
      other ∈ medias := by
  induction medias with
  | nil => exact fun hmem => absurd hmem List.not_mem_nil
  | cons media rest ih =>
    intro world hmem
    rcases List.mem_append.1 hmem with hfirst | hrest
    · exact List.mem_cons.2 (Or.inl (media_of_mem_stored hfirst))
    · exact List.mem_cons_of_mem media (ih hrest)

/-- Ingestions write the caption files that they store and nothing else. -/
theorem runAll_writesOnly (medias : List String) : ∀ {world : World σ},
    (∀ media ∈ medias, tools.LeavesDisk media) →
      WritesOnly settings (storedAll tools settings world medias) world.disk
        (runAll tools settings world medias).2.disk := by
  induction medias with
  | nil => exact fun _ => WritesOnly.refl settings _
  | cons media rest ih =>
    intro world hleaves
    obtain ⟨hfirst, hrest⟩ := List.forall_mem_cons.1 hleaves
    exact (run_writesOnly hfirst world).trans (ih hrest)

/-- Ingestions after others go on in the world that these have left. -/
theorem runAll_append (before later : List String) : ∀ world : World σ,
    (runAll tools settings world (before ++ later)).2 =
      (runAll tools settings (runAll tools settings world before).2 later).2 := by
  induction before with
  | nil => exact fun world => rfl
  | cons media rest ih => exact fun world => ih (run tools settings media world).2

/-- **What becomes of the captions of an ingestion.** Let tools leave the disk alone, let the disk keep
what is written to the caption files of a media file, and let its ingestion succeed, before others
or after. Then in the end each of its caption files holds what the ingestion wrote, unless a later
ingestion has stored captions for a track of the same index, of a media file of the same stem, whose
caption file is in the same place. -/
theorem runAll_captions {before later : List String} {world : World σ} {selection : Selection}
    (hleaves : ∀ other ∈ before ++ media :: later, tools.LeavesDisk other)
    (hkeeps : KeepsCaptions media world.disk)
    (h : (run tools settings media (runAll tools settings world before).2).1.outcome =
      .ok selection) :
    let now := (run tools settings media (runAll tools settings world before).2).2
    let last := (runAll tools settings world (before ++ media :: later)).2
    ∀ track ∈ selection.subtitle, ∀ path, track.captions = some path → ∃ cues,
      now.disk.load path = .ok (captionContent cues) ∧
      (last.disk.load path = .ok (captionContent cues) ∨
        ∃ other ∈ later, ∃ place, (other, track.index) ∈ storedAll tools settings now later ∧
          Path.stem other = Path.stem media ∧
          last.disk.locate (captionPath settings other track.index) = .ok place ∧
          last.disk.locate path = .ok place) := by
  intro now last track htrack path hpath
  obtain ⟨_, _, _, picks, picked, after, hstages⟩ := run_stages h
  obtain ⟨himage, rfl⟩ := isImage_of_captions
    (hstages.captioned.captions_eq hstages.picks_uncaptioned track htrack) hpath
  have hbefore : ∀ other ∈ before, tools.LeavesDisk other := fun other hother =>
    hleaves other (List.mem_append_left _ hother)
  have hown : tools.LeavesDisk media := hleaves media (by simp)
  have hlater : ∀ other ∈ later, tools.LeavesDisk other := fun other hother =>
    hleaves other (by simp [hother])
  -- the ingestion itself writes the file, at a place that stays where it is
  obtain ⟨places, hwrote⟩ :=
    hstages.wrote hown ((runAll_writesOnly before hbefore).keepsCaptions hkeeps)
  obtain ⟨place, hplace, -, cues, -, -, -, hread⟩ := hwrote.held track htrack himage
  rw [← hstages.world] at hplace hread
  have hlast : last = (runAll tools settings now later).2 :=
    runAll_append before (media :: later) world
  have hwrites : WritesOnly settings (storedAll tools settings now later) now.disk
      (runAll tools settings now later).2.disk := runAll_writesOnly later hlater
  have hplaceLast := Disk.locate_grows hwrites.grows hplace
  rw [hlast]
  refine ⟨cues, Disk.load_of_read? hplace hread, ?_⟩
  obtain hsame | ⟨other, hstored, hstem, hlocated⟩ := hwrites.read?_or hplace
  · exact Or.inl (Disk.load_of_read? hplaceLast (hsame.trans hread))
  · exact Or.inr ⟨other, media_of_mem_storedAll later hstored, place, hstored, hstem, hlocated,
      hplaceLast⟩

/-- A film with one bitmap subtitle. -/
def oneSubtitle : List StreamRecord :=
  [{ index := some 0, codecType := some "video", codec := some "h264", width := some 1920 },
    { index := some 1, codecType := some "audio", codec := some "aac",
      tags := [("language", .string "eng")] },
    { index := some 2, codecType := some "subtitle", codec := some "xsub",
      tags := [("language", .string "eng")] }]

/-- A dump with another caption than `shortDump` has. -/
def otherDump : String :=
  "frame:0 pts_time:1\nlavfi.ocr.text=B\nframe:1 pts_time:2\nlavfi.ocr.text=\n"

/-- Tools that read one caption in one of the media files, and another in all others. -/
def tellingApart (media : String) : Toolbox Unit where
  probe _ world := (.ok ⟨some oneSubtitle⟩, world)
  extractAll file extractions world :=
    (extractions.map fun _ => .ok (if file = media then shortDump else otherDump), world)

theorem tellingApart_leavesDisk (media file : String) : (tellingApart media).LeavesDisk file :=
  ⟨fun _ => rfl, fun _ _ => rfl⟩

/-- An ingestion between two others: the first of them is of the same stem, and its caption file is
written over; the last one is of another stem and writes its own. -/
theorem runAll_captions_film : ∃ selection cues,
    (∀ other, (tellingApart "film.mkv").LeavesDisk other) ∧ KeepsCaptions "film.mkv" .fresh ∧
      (run (tellingApart "film.mkv") .default "film.mkv"
        (runAll (tellingApart "film.mkv") .default ⟨.fresh, ()⟩ ["film.mp4"]).2).1.outcome =
          .ok selection ∧
      selection.captionFiles = ["film.2.srt"] ∧
      (runAll (tellingApart "film.mkv") .default ⟨.fresh, ()⟩
        ["film.mp4", "film.mkv", "other.mkv"]).2.disk.load "film.2.srt" =
          .ok (captionContent cues) := by
  have hrun : (run (tellingApart "film.mkv") .default "film.mkv"
      (runAll (tellingApart "film.mkv") .default ⟨.fresh, ()⟩ ["film.mp4"]).2).1.outcome.toOption.map
        Selection.captionFiles = some ["film.2.srt"] := by
    decide +kernel
  obtain ⟨selection, hselection, hfiles⟩ := exists_ok_of_map hrun
  have hleaves := tellingApart_leavesDisk "film.mkv"
  have hkeeps := keepsCaptions_fresh "film.mkv"
  obtain ⟨track, htrack, hpath⟩ : ∃ track ∈ selection.subtitle,
      track.captions = some "film.2.srt" :=
    List.mem_filterMap.1 (hfiles ▸ List.mem_singleton_self "film.2.srt" :
      "film.2.srt" ∈ selection.captionFiles)
  have hall : ∀ other ∈ ["film.mp4"] ++ "film.mkv" :: ["other.mkv"],
      (tellingApart "film.mkv").LeavesDisk other := fun other _ => hleaves other
  obtain ⟨cues, -, hlast⟩ := runAll_captions hall hkeeps hselection track htrack _ hpath
  have hstems : ∀ other ∈ ["other.mkv"], Path.stem other ≠ Path.stem "film.mkv" := by
    decide +kernel
  rcases hlast with hload | ⟨other, hother, -, -, hstem, -⟩
  · exact ⟨selection, cues, hleaves, hkeeps, hselection, hfiles, hload⟩
  · exact absurd hstem (hstems other hother)

/-- **Captions do not survive every ingestion.** The second of two media files differs from the first
in its extension only, and its captions are written over those of the first. -/
theorem captions_overwritten : ∃ selection cues others,
    (∀ media, (tellingApart "film.mkv").LeavesDisk media) ∧
      KeepsCaptions "film.mkv" .fresh ∧ KeepsCaptions "film.mp4" .fresh ∧
      (run (tellingApart "film.mkv") .default "film.mkv" ⟨.fresh, ()⟩).1.outcome = .ok selection ∧
      selection.captionFiles = ["film.2.srt"] ∧
      (run (tellingApart "film.mkv") .default "film.mkv" ⟨.fresh, ()⟩).2.disk.load "film.2.srt" =
        .ok (captionContent cues) ∧
      (runAll (tellingApart "film.mkv") .default ⟨.fresh, ()⟩
        ["film.mkv", "film.mp4"]).2.disk.load "film.2.srt" = .ok (captionContent others) ∧
      captionContent cues ≠ captionContent others := by
  have hrun : (run (tellingApart "film.mkv") .default "film.mkv"
      ⟨.fresh, ()⟩).1.outcome.toOption.map Selection.captionFiles = some ["film.2.srt"] := by
    decide +kernel
  obtain ⟨selection, hselection, hfiles⟩ := exists_ok_of_map hrun
  refine ⟨selection, [⟨1, ⟨1000⟩, ⟨2000⟩, ["A"]⟩], [⟨1, ⟨1000⟩, ⟨2000⟩, ["B"]⟩],
    tellingApart_leavesDisk _, keepsCaptions_fresh _, keepsCaptions_fresh _, hselection, hfiles, ?_, ?_,
    ?_⟩
  · decide +kernel
  · decide +kernel
  · decide +kernel

end TrackSelect.Ingest
