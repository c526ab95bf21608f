import TrackSelect.Proofs.Ingest.Failing
import TrackSelect.Proofs.Ingest.Succeeding
import TrackSelect.Proofs.Text.Utf8

/-!
# What an ingestion writes

Tools leave the disk alone, so what an ingestion changes there is what caption making stores. An
ingestion that succeeds has written the caption files of its selection and no other file
(`run_writes`). One that fails has written nothing (`run_error_disk`): there is no way back from a
file that is written, but the track it was written for is kept, and with a subtitle to keep an
ingestion does not fail any more.
-/

namespace TrackSelect

variable {σ : Type} {tools : Toolbox σ}

/-! ## Up to caption making -/

/-- Searching leaves the disk alone. -/
theorem ForeignAudio.countBatches_disk {setting : Setting} (h : tools.LeavesDisk setting.media)
    (pools : List (List Track)) : ∀ (tally : Tally) (world : World σ),
      (countBatches tools setting tally world pools).2.disk = world.disk := by
  induction pools with
  | nil => exact fun tally world => rfl
  | cons batch rest ih =>
    intro tally world
    rw [countBatches]
    exact (ih _ _).trans (h.extractAll (batch.map (extraction setting)) world)

namespace RuleSet

variable {setting : ForeignAudio.Setting}

/-- So does a rule-set. -/
theorem narrow_disk (h : tools.LeavesDisk setting.media) (rules : List Rule) (picks : Picks)
    (world : World σ) (pool : List Track) :
    (narrow tools setting picks world rules pool).2.disk = world.disk := by
  induction picks, world, rules, pool using narrow_induction tools setting with
  | done picks world rules pool hdone => rw [narrow_of_isDone hdone]
  | search picks world rules pool hopen ih =>
    rw [narrow_of_search tools setting picks world hopen, ih]
    exact ForeignAudio.countBatches_disk h _ _ world
  | apply picks world rule rules pool kept hrule hopen hkept ih =>
    rw [narrow_of_apply tools setting picks world hrule hopen hkept, ih]

/-- So do all rule-sets. -/
theorem run_disk (h : tools.LeavesDisk setting.media) (sets : List RuleSet) (picks : Picks)
    (world : World σ) (pool : List Track) :
    (run tools setting picks world sets pool).2.disk = world.disk := by
  induction picks, world, sets, pool using run_induction tools setting with
  | done picks world sets pool hover => rw [run_of_isOver hover]
  | turn picks world set sets pool picked after now hpool hnarrow ih =>
    have hdisk := narrow_disk h set.rules picks world pool
    rw [hnarrow] at hdisk
    rw [run_of_narrow tools setting picks world hpool hnarrow, ih, hdisk]

end RuleSet

namespace Ingest

variable {settings : Settings} {media : String}

/-! ## One caption file -/

/-- A disk that keeps what is written to caption files: none of them is a device, which would take
what is written and not keep it. -/
def KeepsCaptions (media : String) (disk : Disk) : Prop :=
  ∀ place track device, place.getLast? = some (captionName media track) →
    disk.node? place ≠ some (.device device)

/-- What is written makes no devices. -/
theorem KeepsCaptions.spared {before after : Disk} {places : List Place}
    (h : KeepsCaptions media before) (hspares : before.Spares places after) :
    KeepsCaptions media after := fun place track device hname hdevice =>
  h place track device hname (hspares.device place device hdevice)

/-- A fresh disk keeps caption files: the names of its devices end in other letters. -/
theorem keepsCaptions_fresh (media : String) : KeepsCaptions media .fresh := by
  have hends : ∀ entry ∈ Disk.fresh.nodes, ∀ device ∈ [Device.null, .zero, .full],
      entry.2 = .device device →
        entry.1.getLast?.map (·.toList.getLast?) ≠ some (".srt".toList.getLast?) := by
    decide +kernel
  intro place track device hname hdevice
  have hne : place ≠ [] := by
    rintro rfl
    cases hname
  rw [Disk.node?, if_neg hne, List.lookup_eq_some_iff] at hdevice
  obtain ⟨before, after, hnodes, -⟩ := hdevice
  have hheld : (place, Node.device device) ∈ Disk.fresh.nodes := by simp [hnodes]
  refine hends _ hheld device (by cases device <;> simp) rfl ?_
  rw [hname, Option.map_some, captionName_toList]
  simp [List.getLast?_append, List.getLast?_cons]

/-- The content of a caption file. -/
def captionContent (cues : List Cue) : List UInt8 := Text.Utf8.encode (SubRip.render cues)

/-- A caption file that is stored is there, and no other file has changed. -/
theorem storeCaptions_ok {track : Nat} {cues : List Cue} {disk after : Disk}
    (hkeeps : KeepsCaptions media disk)
    (h : storeCaptions settings media track cues disk = (.ok (), after)) :
    ∃ place, after.locate (captionPath settings media track) = .ok place ∧
      disk.Spares [place] after ∧ after.read? place = some (captionContent cues) := by
  have hfolders := Disk.makeFolders_foldered disk (captionFolder settings media)
  unfold storeCaptions at h
  split at h
  · cases h
  · next between hbetween =>
    rw [hbetween] at hfolders
    split at h
    · cases h
    · next stored hstored =>
      cases h
      obtain ⟨place, hplace, ⟨hdevice, -⟩ | ⟨hspares, hread⟩⟩ := Disk.store_ok hstored
      · -- a device would have been there before the folders
        obtain ⟨device, hdevice⟩ := hdevice
        exact absurd (hfolders.device place device hdevice)
          (hkeeps place track device (captionPlace_name hplace))
      · exact ⟨place, Disk.locate_grows hspares.toGrows hplace, hfolders.trans hspares, hread⟩

/-! ## All caption files -/

variable (tools settings media) in
/-- What caption making is answered, from some world on. -/
def ocrAnswers : World σ → List Track → List Answered
  | _, [] => []
  | world, track :: rest =>
    if track.isImage settings.imageCodecs then
      ⟨.ocr track.index, (tools.extract media (.ocr track.index) world).1⟩ ::
        ocrAnswers (makeCaptions tools settings media track.index world).2 rest
    else ocrAnswers world rest

/-- A track with a text has no answer. -/
theorem ocrAnswers_text {track : Track} (h : track.isImage settings.imageCodecs = false)
    (world : World σ) (rest : List Track) :
    ocrAnswers tools settings media world (track :: rest) =
      ocrAnswers tools settings media world rest := by
  rw [ocrAnswers, if_neg (by simp [h])]

/-- A bitmap subtitle has an answer of its own. -/
theorem ocrAnswers_image {track : Track} (h : track.isImage settings.imageCodecs = true)
    (world : World σ) (rest : List Track) :
    ocrAnswers tools settings media world (track :: rest) =
      ⟨.ocr track.index, (tools.extract media (.ocr track.index) world).1⟩ ::
        ocrAnswers tools settings media
          (makeCaptions tools settings media track.index world).2 rest := by
  rw [ocrAnswers, if_pos h]

/-- The caption file of a track is at a place of a disk, and holds the cues of the dump that caption
making was answered. -/
structure HoldsCaptions (settings : Settings) (media : String) (answers : List Answered)
    (disk : Disk) (track : Nat) (place : Place) : Prop where
  located : disk.locate (captionPath settings media track) = .ok place
  content : ∃ dump cues, ⟨.ocr track, .ok dump⟩ ∈ answers ∧ OcrDump.cues dump = .ok cues ∧
    cues ≠ [] ∧ disk.read? place = some (captionContent cues)

namespace HoldsCaptions

variable {answers : List Answered} {disk after : Disk} {track : Nat} {place : Place}

/-- More answers do not matter. -/
theorem cons (h : HoldsCaptions settings media answers disk track place) (answered : Answered) :
    HoldsCaptions settings media (answered :: answers) disk track place := by
  obtain ⟨dump, cues, hdump, hcues⟩ := h.content
  exact ⟨h.located, dump, cues, List.mem_cons_of_mem answered hdump, hcues⟩

/-- Nor does what is written elsewhere. -/
theorem spared (h : HoldsCaptions settings media answers disk track place) {places : List Place}
    (hspares : disk.Spares places after) (hplace : place ∉ places) :
    HoldsCaptions settings media answers after track place := by
  obtain ⟨dump, cues, hdump, hcues, hsome, hread⟩ := h.content
  refine ⟨Disk.locate_grows hspares.toGrows h.located, dump, cues, hdump, hcues, hsome, ?_⟩
  rw [hspares.read? place hplace, hread]

end HoldsCaptions

/-- What has been written to a disk between two moments: files at some places, which are those of the
bitmap subtitles that are kept. -/
structure Wrote (settings : Settings) (media : String) (answers : List Answered)
    (kept : List Track) (places : List Place) (before after : Disk) : Prop where
  spares : before.Spares places after
  files : ∀ place ∈ places, ∃ track ∈ kept, track.isImage settings.imageCodecs ∧
    after.locate (captionPath settings media track.index) = .ok place
  held : ∀ track ∈ kept, track.isImage settings.imageCodecs →
    ∃ place, HoldsCaptions settings media answers after track.index place

namespace Wrote

variable {answers : List Answered} {kept : List Track} {places : List Place}
  {before between after : Disk} {track : Track}

/-- Nothing is written for a track with a text. -/
theorem text (h : Wrote settings media answers kept places before after)
    (htext : track.isImage settings.imageCodecs = false) :
    Wrote settings media answers (track :: kept) places before after where
  spares := h.spares
  files place hplace := by
    obtain ⟨other, hother, hfile⟩ := h.files place hplace
    exact ⟨other, List.mem_cons_of_mem track hother, hfile⟩
  held other hother himage := by
    rcases List.mem_cons.1 hother with rfl | hother
    · simp [htext] at himage
    · exact h.held other hother himage

/-- Nor for one that is dropped. -/
theorem dropped (h : Wrote settings media answers kept places before after)
    (answered : Answered) :
    Wrote settings media (answered :: answers) kept places before after where
  spares := h.spares
  files := h.files
  held other hother himage := by
    obtain ⟨place, hholds⟩ := h.held other hother himage
    exact ⟨place, hholds.cons answered⟩

/-- The file of one more bitmap subtitle comes to the others. They have other names, so none of them
is written over it. -/
theorem stored (h : Wrote settings media answers kept places between after)
    (himage : track.isImage settings.imageCodecs = true)
    (hfresh : ∀ other ∈ kept, other.index ≠ track.index) {place : Place}
    (hspares : before.Spares [place] between) {answered : Answered}
    (hheld : HoldsCaptions settings media (answered :: answers) between track.index place) :
    Wrote settings media (answered :: answers)
      ({ track with captions := some (captionPath settings media track.index) } :: kept)
      ([place] ++ places) before after := by
  have hlocated := Disk.locate_grows h.spares.toGrows hheld.located
  have hplace : place ∉ places := by
    intro hmem
    obtain ⟨other, hother, -, hfile⟩ := h.files place hmem
    have hnames := (captionPlace_name hlocated).symm.trans (captionPlace_name hfile)
    exact hfresh other hother (captionName_inj (Option.some.inj hnames)).2.symm
  refine ⟨hspares.trans h.spares, fun other hmem => ?_, fun other hother himageOther => ?_⟩
  · rcases List.mem_append.1 hmem with hone | hmem
    · rw [List.mem_singleton.1 hone]
      exact ⟨_, List.mem_cons_self, himage, hlocated⟩
    · obtain ⟨captioned, hin, hfile⟩ := h.files other hmem
      exact ⟨captioned, List.mem_cons_of_mem _ hin, hfile⟩
  · rcases List.mem_cons.1 hother with rfl | hother
    · exact ⟨place, hheld.spared h.spares hplace⟩
    · obtain ⟨held, hholds⟩ := h.held other hother himageOther
      exact ⟨held, hholds.cons answered⟩

end Wrote

namespace CaptionRun

variable {world last : World σ} {tracks kept : List Track}

/-- What is kept has indices of the tracks. -/
theorem index_mem (h : CaptionRun tools settings media world tracks kept last)
    (hplain : ∀ track ∈ tracks, track.captions = none) :
    ∀ track ∈ kept, track.index ∈ tracks.map Track.index := by
  intro track htrack
  have hmem := (h.sublist hplain).subset (List.mem_map_of_mem htrack)
  exact List.mem_map.2 ⟨track.uncaptioned, hmem, rfl⟩

/-- **A run of caption making writes the caption files of what it keeps.** -/
theorem wrote (h : CaptionRun tools settings media world tracks kept last)
    (hleaves : tools.LeavesDisk media) (hplain : ∀ track ∈ tracks, track.captions = none)
    (hdistinct : (tracks.map Track.index).Nodup) (hkeeps : KeepsCaptions media world.disk) :
    ∃ places, Wrote settings media (ocrAnswers tools settings media world tracks) kept places
      world.disk last.disk := by
  induction h with
  | done world => exact ⟨[], Disk.Spares.refl world.disk, by simp, by simp⟩
  | text htext _ ih =>
    obtain ⟨places, hrest⟩ :=
      ih (List.forall_mem_cons.1 hplain).2 (List.nodup_cons.1 hdistinct).2 hkeeps
    rw [ocrAnswers_text htext]
    exact ⟨places, hrest.text htext⟩
  | @stored world after _ track rest kept dump cues _ himage hextract hcues hsome hstore hmade
      hothers ih =>
    obtain ⟨-, hplain⟩ := List.forall_mem_cons.1 hplain
    obtain ⟨hnew, hdistinct⟩ := List.nodup_cons.1 hdistinct
    have hdisk : after.disk = world.disk := by
      have hleft := hleaves.extract (.ocr track.index) world
      rwa [hextract] at hleft
    obtain ⟨place, hplace, hspares, hread⟩ := storeCaptions_ok (hdisk ▸ hkeeps) hstore
    rw [hdisk] at hspares
    obtain ⟨places, hrest⟩ := ih hplain hdistinct (hkeeps.spared hspares)
    -- the rest of the run is about other tracks, so it writes no other dump over this one
    have hfresh : ∀ other ∈ kept, other.index ≠ track.index := fun other hother heq =>
      hnew (heq ▸ hothers.index_mem hplain other hother)
    rw [ocrAnswers_image himage, hextract, hmade]
    exact ⟨_, hrest.stored himage hfresh hspares
      ⟨hplace, dump, cues, List.mem_cons_self, hcues, hsome, hread⟩⟩
  | @dropped world after _ track _ _ _ himage hfailed _ hextract _ ih =>
    have hdisk : after.disk = world.disk := by
      rw [← hextract]
      exact hleaves.extract (.ocr track.index) world
    rw [hdisk] at ih
    obtain ⟨places, hrest⟩ :=
      ih (List.forall_mem_cons.1 hplain).2 (List.nodup_cons.1 hdistinct).2 hkeeps
    rw [ocrAnswers_image himage, hfailed]
    exact ⟨places, hrest.dropped _⟩

/-- A run that keeps nothing has written nothing. -/
theorem disk_of_nil (h : CaptionRun tools settings media world tracks kept last)
    (hleaves : tools.LeavesDisk media) (hkept : kept = []) : last.disk = world.disk := by
  induction h with
  | done => rfl
  | text => cases hkept
  | stored => cases hkept
  | @dropped world after _ track _ _ _ _ _ _ hextract _ ih =>
    rw [ih hkept, ← hextract]
    exact hleaves.extract (.ocr track.index) world

end CaptionRun

/-! ## An ingestion that succeeds -/

/-- The disk is left alone until caption making. -/
theorem select_disk (settings : Settings) (hleaves : tools.LeavesDisk media)
    (candidates : List Track) (world : World σ) :
    (RuleSet.select tools (searchSetting settings media) settings.subtitle candidates
      world).2.disk = world.disk := by
  have hsearch : tools.LeavesDisk (searchSetting settings media).media := hleaves
  exact RuleSet.run_disk hsearch settings.subtitle {} world candidates

/-- The disk is as it was when caption making begins. -/
theorem Stages.picked_disk {world probed picked last : World σ} {selection : Selection}
    {report : ProbeReport} {catalog : Catalog} {picks : Picks}
    (h : Stages tools settings media world selection report probed catalog picks picked last)
    (hleaves : tools.LeavesDisk media) : picked.disk = world.disk := by
  have hprobed := hleaves.probe world
  have hselected := select_disk settings hleaves catalog.subtitle probed
  rw [h.probe] at hprobed
  rw [h.select] at hselected
  exact hselected.trans hprobed

/-- Where the caption files of a media file go: to the configured folder; without one, to the folder
that the media file is in; and to the working folder when its path does not tell. -/
inductive CaptionsGoTo (settings : Settings) (media : String) : (folder : String) → Prop where
  | configured {folder} (h : settings.captionFolder = some folder) :
      CaptionsGoTo settings media folder
  | beside {folder} (hnone : settings.captionFolder = none)
      (h : Path.parent? media = some folder) : CaptionsGoTo settings media folder
  | working (hnone : settings.captionFolder = none) (h : Path.parent? media = none) :
      CaptionsGoTo settings media "."

/-- There is one such folder. -/
theorem captionsGoTo_iff {folder : String} :
    CaptionsGoTo settings media folder ↔ captionFolder settings media = folder := by
  unfold captionFolder
  constructor
  · rintro (h | ⟨hnone, h⟩ | ⟨hnone, h⟩)
    · rw [h, Option.getD_some]
    · rw [hnone, h, Option.getD_none, Option.getD_some]
    · rw [hnone, h, Option.getD_none, Option.getD_none]
  · rintro rfl
    cases hconfigured : settings.captionFolder with
    | some folder => exact .configured hconfigured
    | none =>
      cases hparent : Path.parent? media with
      | some folder => exact .beside hconfigured hparent
      | none => exact .working hconfigured hparent

/-- What a selection has to do with what was written between two moments. The answers are those that
caption making was given for the picks. -/
structure WritesCaptions (settings : Settings) (media : String) (answers : List Answered)
    (picked : List Track) (selection : Selection) (before after : Disk) : Prop where
  /-- A caption file is named by the stem of the media file and the index of the track. -/
  path : ∀ track ∈ selection.subtitle, ∀ path, track.captions = some path →
    ∃ folder, CaptionsGoTo settings media folder ∧
      path = Path.join folder (Path.stem media ++ "." ++ toString track.index ++ ".srt")
  distinct : (selection.subtitle.filterMap Track.captions).Nodup
  /-- It holds the cues of the dump of its own track, and there are some. -/
  content : ∀ track ∈ selection.subtitle, ∀ path, track.captions = some path →
    ∃ dump cues content, ⟨.ocr track.index, .ok dump⟩ ∈ answers ∧ OcrDump.cues dump = .ok cues ∧
      cues ≠ [] ∧ after.load path = .ok content ∧
      content = Text.Utf8.encode (SubRip.render cues) ∧
      Text.Utf8.decode content = SubRip.render cues
  /-- Every file but these is as before. -/
  others : ∀ place,
    (∀ path ∈ selection.subtitle.filterMap Track.captions, after.locate path ≠ .ok place) →
      after.read? place = before.read? place
  /-- So is the caption file of a track that was picked and dropped, if there is one. -/
  dropped : ∀ track ∈ picked, track.index ∉ selection.indices .subtitle →
    ∀ folder, CaptionsGoTo settings media folder → ∀ place,
      after.locate (Path.join folder (Path.stem media ++ "." ++ toString track.index ++ ".srt")) =
        .ok place →
      after.read? place = before.read? place

/-- A caption file stands in for a bitmap subtitle. -/
theorem isImage_of_captions {track : Track} {path : String}
    (h : track.captions = if track.isImage settings.imageCodecs then
      some (captionPath settings media track.index) else none) (hpath : track.captions = some path) :
    track.isImage settings.imageCodecs ∧ path = captionPath settings media track.index := by
  rw [hpath] at h
  split_ifs at h with himage
  exact ⟨himage, Option.some.inj h⟩

/-- The caption files of subtitles are those of the bitmap subtitles among them. -/
theorem captionFiles_eq {kept : List Track}
    (h : ∀ track ∈ kept, track.captions =
      if track.isImage settings.imageCodecs then some (captionPath settings media track.index)
      else none) :
    kept.filterMap Track.captions =
      ((kept.filter (·.isImage settings.imageCodecs)).map Track.index).map
        (captionPath settings media) := by
  rw [List.filterMap_congr h, List.map_map, ← List.filterMap_eq_map, List.filterMap_filter]
  exact List.filterMap_congr fun track _ => rfl

/-- What is written for the subtitles of a selection are its caption files. -/
theorem Wrote.writesCaptions {answers : List Answered} {selection : Selection} {before after : Disk}
    {places : List Place}
    (h : Wrote settings media answers selection.subtitle places before after)
    (hcaptions : ∀ track ∈ selection.subtitle, track.captions =
      if track.isImage settings.imageCodecs then some (captionPath settings media track.index)
      else none)
    (hdistinct : (selection.subtitle.map Track.index).Nodup) (picked : List Track) :
    WritesCaptions settings media answers picked selection before after := by
  have hfiles := captionFiles_eq hcaptions
  constructor
  case path =>
    intro track htrack path hpath
    exact ⟨_, captionsGoTo_iff.2 rfl, (isImage_of_captions (hcaptions track htrack) hpath).2⟩
  case distinct =>
    rw [hfiles]
    refine (hdistinct.sublist (List.filter_sublist.map Track.index)).map ?_
    exact fun track₁ track₂ heq => (captionPath_inj rfl heq).2
  case content =>
    intro track htrack path hpath
    obtain ⟨himage, rfl⟩ := isImage_of_captions (hcaptions track htrack) hpath
    obtain ⟨place, hplace, dump, cues, hdump, hcues, hsome, hread⟩ := h.held track htrack himage
    exact ⟨dump, cues, _, hdump, hcues, hsome, Disk.load_of_read? hplace hread, rfl,
      Text.Utf8.decode_encode _⟩
  case others =>
    intro place hnone
    refine h.spares.read? place fun hmem => ?_
    obtain ⟨track, htrack, himage, hplace⟩ := h.files place hmem
    refine hnone _ ?_ hplace
    rw [hfiles]
    exact List.mem_map_of_mem (List.mem_map_of_mem (List.mem_filter.2 ⟨htrack, himage⟩))
  case dropped =>
    intro track _ hnone folder hfolder place hplace
    obtain rfl := captionsGoTo_iff.1 hfolder
    refine h.spares.read? place fun hmem => ?_
    -- a file at that place would be one of the same track
    obtain ⟨other, hother, -, hfile⟩ := h.files place hmem
    have hnames := (captionPlace_name hfile).symm.trans (captionPlace_name hplace)
    have hindex := (captionName_inj (Option.some.inj hnames)).2
    exact hnone (hindex ▸ List.mem_map_of_mem hother)

/-- The last stage writes the caption files of the selection, if tools leave the disk alone and the
disk keeps what is written to caption files. -/
theorem Stages.wrote {world probed picked last : World σ} {selection : Selection}
    {report : ProbeReport} {catalog : Catalog} {picks : Picks}
    (h : Stages tools settings media world selection report probed catalog picks picked last)
    (hleaves : tools.LeavesDisk media) (hkeeps : KeepsCaptions media world.disk) :
    ∃ places, Wrote settings media (ocrAnswers tools settings media picked picks.selected)
      selection.subtitle places world.disk last.disk := by
  have hpicked := RuleSet.nodup_of_subperm h.picks_subperm (Catalog.subtitle_nodup h.listed)
  have hdisk := h.picked_disk hleaves
  obtain ⟨places, hwrote⟩ := h.captioned.wrote hleaves h.picks_uncaptioned hpicked (hdisk ▸ hkeeps)
  exact ⟨places, hdisk ▸ hwrote⟩

variable (tools settings media) in
/-- **An ingestion that succeeds has written the caption files of its selection**, and no other file,
if tools leave the disk alone and the disk keeps what is written to caption files. Caption files in
one folder have the same path only if they are of the same stem and the same track. -/
theorem run_writes :
    (∀ (world : World σ) (selection : Selection), tools.LeavesDisk media →
      KeepsCaptions media world.disk →
      (run tools settings media world).1.outcome = .ok selection →
      ∃ report probed catalog picks picked,
        tools.probe media world = (.ok report, probed) ∧
        Catalog.ofReport report = .ok catalog ∧
        RuleSet.select tools (searchSetting settings media) settings.subtitle catalog.subtitle
          probed = (.ok picks, picked) ∧
        WritesCaptions settings media (ocrAnswers tools settings media picked picks.selected)
          picks.selected selection world.disk (run tools settings media world).2.disk) ∧
    ∀ (settings₁ settings₂ : Settings) (media₁ media₂ folder : String) (track₁ track₂ : Nat),
      CaptionsGoTo settings₁ media₁ folder → CaptionsGoTo settings₂ media₂ folder →
      captionPath settings₁ media₁ track₁ = captionPath settings₂ media₂ track₂ →
      Path.stem media₁ = Path.stem media₂ ∧ track₁ = track₂ := by
  refine ⟨fun world selection hleaves hkeeps h => ?_, fun _ _ _ _ folder _ _ h₁ h₂ => ?_⟩
  case refine_2 => exact captionPath_inj ((captionsGoTo_iff.1 h₁).trans (captionsGoTo_iff.1 h₂).symm)
  obtain ⟨report, probed, catalog, picks, picked, last, hstages⟩ := run_stages h
  refine ⟨report, probed, catalog, picks, picked, hstages.probe, hstages.listed, hstages.select, ?_⟩
  have hplain := hstages.picks_uncaptioned
  have hpicked := RuleSet.nodup_of_subperm hstages.picks_subperm
    (Catalog.subtitle_nodup hstages.listed)
  have hkept := (hstages.captioned.sublist hplain).map Track.index
  rw [List.map_map] at hkept
  obtain ⟨places, hwrote⟩ := hstages.wrote hleaves hkeeps
  rw [hstages.world]
  exact hwrote.writesCaptions (hstages.captioned.captions_eq hplain) (hpicked.sublist hkept) _

/-- Settings with a folder for caption files. -/
def captionsApart : Settings := { allEnglish with captionFolder := some "caps" }

/-- What the ingestion of that film comes to, which is in a folder: the caption files of the
selection, and what is read from a path afterwards. -/
def captionsRead (settings : Settings) (path : String) : Option (List String) × Option String :=
  let (ingestion, world) := run (.scripted threeTexts) settings "in/film.mkv" ⟨.fresh, []⟩
  (ingestion.outcome.toOption.map Selection.captionFiles,
    (world.disk.load path).toOption.map Text.Utf8.decode)

/-- The document of its caption. -/
def oneCaption : String := "1\n00:00:01,000 --> 00:00:02,000\nA\n\n"

/-- It succeeds, and has written the caption files of its selection. -/
def WritesFilm (settings : Settings) : Prop :=
  ∃ selection answers picked,
    (run (.scripted threeTexts) settings "in/film.mkv" ⟨.fresh, []⟩).1.outcome = .ok selection ∧
    WritesCaptions settings "in/film.mkv" answers picked selection .fresh
      (run (.scripted threeTexts) settings "in/film.mkv" ⟨.fresh, []⟩).2.disk

/-- On a fresh disk one caption file is written, to the folder of the settings or, without one,
beside the film. -/
theorem run_writes_threeTexts :
    (Toolbox.scripted threeTexts).LeavesDisk "in/film.mkv" ∧ KeepsCaptions "in/film.mkv" .fresh ∧
      (captionsRead captionsApart "caps/film.2.srt" = (some ["caps/film.2.srt"], some oneCaption) ∧
        WritesFilm captionsApart) ∧
      captionsRead allEnglish "in/film.2.srt" = (some ["in/film.2.srt"], some oneCaption) ∧
        WritesFilm allEnglish := by
  have hleaves := Toolbox.scripted_leavesDisk threeTexts "in/film.mkv"
  have hkeeps := keepsCaptions_fresh "in/film.mkv"
  have hwrites : ∀ settings path files text, captionsRead settings path = (some files, text) →
      WritesFilm settings := by
    intro settings path files text hread
    obtain ⟨selection, hselection, -⟩ := exists_ok_of_map (congrArg Prod.fst hread)
    obtain ⟨_, _, _, picks, picked, -, -, -, hwritten⟩ :=
      (run_writes (.scripted threeTexts) settings "in/film.mkv").1 ⟨.fresh, []⟩ selection hleaves
        hkeeps hselection
    exact ⟨selection, _, _, hselection, hwritten⟩
  have happart : captionsRead captionsApart "caps/film.2.srt" =
      (some ["caps/film.2.srt"], some oneCaption) := by
    decide +kernel
  have hbeside : captionsRead allEnglish "in/film.2.srt" =
      (some ["in/film.2.srt"], some oneCaption) := by
    decide +kernel
  exact ⟨hleaves, hkeeps, ⟨happart, hwrites _ _ _ _ happart⟩, hbeside, hwrites _ _ _ _ hbeside⟩

/-! ## An ingestion that fails -/

/-- Subtitles that fail have written nothing, if tools report failures as such and every caption file
can be written. -/
theorem subtitles_error_disk (hreports : tools.Reports media) (hleaves : tools.LeavesDisk media)
    {candidates : List Track} (hdistinct : (candidates.map Track.index).Nodup)
    {world last : World σ} (hwrites : CaptionsSucceed tools settings media candidates world)
    {fault : Fault} {searched : List (List Track)}
    (h : subtitles tools settings media candidates world = (.error fault, searched, last)) :
    last.disk = world.disk := by
  obtain ⟨picks, picked, hselect, -, hpart⟩ := RuleSet.select_subperm tools
    (searchSetting settings media) settings.subtitle world hdistinct
  have hpicked : picked.disk = world.disk := by
    have hdisk := select_disk settings hleaves candidates world
    rwa [hselect] at hdisk
  obtain ⟨captioned, houtcome⟩ : ∃ captioned,
      (captionAll tools settings media {} picked picks.selected).1 = .ok captioned := by
    obtain ⟨answers, htold⟩ := captionAll_recorded settings media hreports picks.selected {} picked
      (RuleSet.nodup_of_subperm hpart hdistinct) (hwrites picks picked hselect)
    exact ⟨_, htold.outcome⟩
  generalize hmade : captionAll tools settings media {} picked picks.selected = made at houtcome
  obtain ⟨outcome, after⟩ := made
  subst houtcome
  obtain ⟨kept, hkept, hrun⟩ := captionRun_of_captionAll _ hmade
  simp only [subtitles, hselect, hmade] at h
  split at h
  · split_ifs at h with hnone
    · -- caption making ended, so it is the judgement that fails, and nothing was kept
      cases h
      have hnil : kept = [] := by
        simp only [Bool.and_eq_true, decide_eq_true_eq] at hnone
        exact hkept.symm.trans hnone.2
      rw [hrun.disk_of_nil hleaves hnil, hpicked]
    · cases h
  · cases h

/-- **An ingestion that fails has written nothing.** Let tools report failed extractions as such and
leave the disk alone, and let all that is written be written. Then the disk is as it was before the
ingestion, to the last folder. -/
theorem run_error_disk (hreports : tools.Reports media) (hleaves : tools.LeavesDisk media)
    (world : World σ) (hwrites : WritesSucceed tools settings media world) {fault : Fault}
    (h : (run tools settings media world).1.outcome = .error fault) :
    (run tools settings media world).2.disk = world.disk := by
  have hprobed := hleaves.probe world
  obtain ⟨cause, hcause⟩ | ⟨report, probed, catalog, video, audio, hprobe, hlisted, -, -, houtcome,
    hworld⟩ := run_cases tools settings media world
  · rw [hcause, hprobed]
  · rw [hprobe] at hprobed
    rw [h] at houtcome
    generalize hsubtitles : subtitles tools settings media catalog.subtitle probed = result
      at houtcome hworld
    obtain ⟨outcome, searched, last⟩ := result
    cases outcome with
    | ok subtitle => cases houtcome
    | error cause =>
      have hdisk := subtitles_error_disk hreports hleaves (Catalog.subtitle_nodup hlisted)
        (hwrites report probed catalog hprobe hlisted) hsubtitles
      rw [hworld, hdisk, hprobed]

/-- Dumps without a cue have nothing to be written. -/
theorem storesSucceed_of_nil
    (h : ∀ track world dump cues, (tools.extract media (.ocr track) world).1 = .ok dump →
      OcrDump.cues dump = .ok cues → cues = []) (tracks : List Track) :
    ∀ world, StoresSucceed tools settings media world tracks := by
  induction tracks with
  | nil => exact fun world => trivial
  | cons track rest ih =>
    intro world
    rw [StoresSucceed]
    split_ifs
    · refine ⟨fun dump cues after hextract hcues hsome => ?_, ih _⟩
      exact absurd (h track.index world dump cues (congrArg Prod.fst hextract) hcues) hsome
    · exact ih world

/-- The dump of one bitmap subtitle is malformed, and that of the other is empty. -/
def brokenDumps : Answers where
  probe := .ok bitmapReport
  transcript _ := .ok ""
  ocr track := .ok (if track = 2 then textlessDump else "")

/-- Neither subtitle of the film is left, so its ingestion fails, and nothing is written. -/
theorem run_error_disk_brokenDumps :
    (Toolbox.scripted brokenDumps).Reports "film.mkv" ∧
      (Toolbox.scripted brokenDumps).LeavesDisk "film.mkv" ∧
      WritesSucceed (.scripted brokenDumps) allEnglish "film.mkv" ⟨.fresh, []⟩ ∧
      (run (.scripted brokenDumps) allEnglish "film.mkv" ⟨.fresh, []⟩).1.outcome =
        .error (.extraction 3 "OCR produced no captions") ∧
      (run (.scripted brokenDumps) allEnglish "film.mkv" ⟨.fresh, []⟩).2.disk = .fresh := by
  have hreports : (Toolbox.scripted brokenDumps).Reports "film.mkv" := by
    refine (Toolbox.scripted_answersBy brokenDumps "film.mkv").reports fun extraction fault h => ?_
    cases extraction <;> cases h
  -- no dump has a cue to be written
  have hcues : ∀ track world dump cues,
      ((Toolbox.scripted brokenDumps).extract "film.mkv" (.ocr track) world).1 = .ok dump →
        OcrDump.cues dump = .ok cues → cues = [] := by
    intro track world dump cues hdump hcues
    cases hdump
    split_ifs at hcues
    · have htextless : (OcrDump.cues textlessDump).toOption = none := by decide +kernel
      simp [hcues, Except.toOption] at htextless
    · have hempty : OcrDump.cues "" = .ok [] := by decide +kernel
      cases hempty.symm.trans hcues
      rfl
  have hfault : (run (.scripted brokenDumps) allEnglish "film.mkv" ⟨.fresh, []⟩).1.outcome =
      .error (.extraction 3 "OCR produced no captions") := by
    have hrun : (run (.scripted brokenDumps) allEnglish "film.mkv"
        ⟨.fresh, []⟩).1.outcome.map (fun _ => ()) =
          .error (.extraction 3 "OCR produced no captions") := by
      decide +kernel
    cases houtcome : (run (.scripted brokenDumps) allEnglish "film.mkv" ⟨.fresh, []⟩).1.outcome with
    | ok selection => simp [houtcome, Except.map] at hrun
    | error fault => simpa [houtcome, Except.map] using hrun
  have hleaves := Toolbox.scripted_leavesDisk brokenDumps "film.mkv"
  have hwrites : WritesSucceed (.scripted brokenDumps) allEnglish "film.mkv" ⟨.fresh, []⟩ :=
    fun _ _ _ _ _ picks after _ => storesSucceed_of_nil hcues picks.selected after
  exact ⟨hreports, hleaves, hwrites, hfault, run_error_disk hreports hleaves _ hwrites hfault⟩

end Ingest

end TrackSelect
