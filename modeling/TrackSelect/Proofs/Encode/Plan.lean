import Mathlib.Data.List.Infix
import Mathlib.Data.List.Nodup
import TrackSelect.Encode
import TrackSelect.Proofs.Text.Numeral

/-!
# What the encoder is asked for

An argument list is read as the encoder reads it: inputs are numbered in their order from zero, and
each map makes one more stream of the encoded file. What is read is a plan (`Plan`), and the list
that is written for a selection reads as a plan that muxes it (`arguments_plan`): every selected
track becomes one stream, from the media file or from its own caption file.

The caption files are counted by the inputs, by the maps and by the languages, each on its own.
Along the subtitles the three stay in step: what is left of the inputs are the caption files of the
subtitles that are left (`exists_source`).
-/

namespace TrackSelect.Encode

/-! ## Reading arguments -/

/-- One stream of an input. Both are counted from zero. -/
structure Source where
  input : Nat
  stream : Nat
deriving DecidableEq, Repr

/-- What is read from flags with a value behind each. -/
def items? {α : Type} (item? : String → String → Option α) : List String → Option (List α)
  | [] => some []
  | [_] => none
  | flag :: value :: rest => do
    let item ← item? flag value
    let items ← items? item? rest
    some (item :: items)

/-- The file of an input. -/
def inputFile? (flag value : String) : Option String := if flag = "-i" then some value else none

/-- The stream that a map takes. -/
def source? (flag value : String) : Option Source :=
  if flag = "-map" then
    match value.toList.splitOn ':' with
    | [input, stream] => do some ⟨← Text.natural? input, ← Text.natural? stream⟩
    | _ => none
  else none

/-- The language that one of the written subtitles gets, and its position among them. -/
def subtitleLanguage? (flag value : String) : Option (Nat × String) := do
  let position ← "-metadata:s:s:".toList.isPrefixOf? flag.toList
  let language ← "language=".toList.isPrefixOf? value.toList
  some (← Text.natural? position, String.ofList language)

/-- What an argument list asks for. -/
structure Plan where
  /-- The files that are read. -/
  inputs : List String
  /-- Where the streams of the encoded file come from. -/
  sources : List Source
  /-- The languages of written subtitles, with their positions. -/
  languages : List (Nat × String)

namespace Plan

/-- The arguments ask for the plan. In front of the inputs stand the options of the settings, behind
the maps the encoders, each with its flag and its options, then the languages, and last the path of
the encoded file. -/
def IsAsked (plan : Plan) (output : Output) (path : String) (args : List String) : Prop :=
  ∃ inputs maps languages : List String,
    args = output.options ++ inputs ++ maps ++
      "-c:v" :: output.video.name :: output.video.options ++
      "-c:a" :: output.audio.name :: output.audio.options ++
      "-c:s" :: output.subtitle.name :: output.subtitle.options ++ languages ++ [path] ∧
    items? inputFile? inputs = some plan.inputs ∧
    items? source? maps = some plan.sources ∧
    items? subtitleLanguage? languages = some plan.languages

/-- The plan writes the selected tracks, in order. -/
structure Muxes (plan : Plan) (media : String) (selection : Selection) : Prop where
  /-- The media file is input 0, and every caption file is one further input. -/
  inputs_eq : plan.inputs = media :: selection.subtitle.filterMap Track.captions
  /-- Every selected track is one stream of the encoded file. -/
  length_eq : plan.sources.length =
    selection.video.length + selection.audio.length + selection.subtitle.length
  /-- Pictures and sounds come from the media file, where they have their index. -/
  plain : ∀ (place : Nat) (track : Track),
    (selection.video ++ selection.audio)[place]? = some track →
      plan.sources[place]? = some ⟨0, track.index⟩
  /-- So does a subtitle without a caption file. One with a caption file comes from that file. -/
  subtitle : ∀ (place : Nat) (track : Track), selection.subtitle[place]? = some track →
    ∃ source : Source,
      plan.sources[selection.video.length + selection.audio.length + place]? = some source ∧
      (track.captions = none → source = ⟨0, track.index⟩) ∧
      ∀ file, track.captions = some file →
        0 < source.input ∧ plan.inputs[source.input]? = some file ∧ source.stream = 0
  /-- Every further input is mapped once. -/
  once : ∀ number, 0 < number → number < plan.inputs.length →
    (plan.sources.map Source.input).count number = 1
  /-- A language is that of a subtitle with a caption file, at its position. -/
  language : ∀ (position : Nat) (language : String), (position, language) ∈ plan.languages ↔
    ∃ track, selection.subtitle[position]? = some track ∧ track.captions.isSome ∧
      track.language = some language
  /-- No subtitle gets its language twice. -/
  languages_nodup : (plan.languages.map Prod.fst).Nodup

end Plan

/-! ## Reading what is written -/

/-- A flag and its value are read, and then the rest. -/
theorem items?_cons {α : Type} {item? : String → String → Option α} {flag value : String}
    {rest : List String} {item : α} {items : List α} (hitem : item? flag value = some item)
    (hrest : items? item? rest = some items) :
    items? item? (flag :: value :: rest) = some (item :: items) := by
  simp [items?, hitem, hrest]

theorem items?_append {α : Type} {item? : String → String → Option α} {front back : List String}
    {first later : List α} (hfront : items? item? front = some first)
    (hback : items? item? back = some later) :
    items? item? (front ++ back) = some (first ++ later) := by
  fun_induction items? item? front generalizing first with
  | case1 =>
    cases hfront
    exact hback
  | case2 => contradiction
  | case3 flag value rest ih =>
    obtain ⟨item, hitem, hrest⟩ := Option.bind_eq_some_iff.1 hfront
    obtain ⟨items, hitems, hfirst⟩ := Option.bind_eq_some_iff.1 hrest
    cases hfirst
    exact items?_cons hitem (ih hitems)

theorem items?_input (files : List String) :
    items? inputFile? (files.flatMap input) = some files := by
  induction files with
  | nil => rfl
  | cons file files ih => exact items?_cons (if_pos rfl) ih

/-- The two numbers of a map stand around a colon. -/
theorem source?_of_toList {value : String} {input stream : Nat}
    (h : value.toList = Text.digits input ++ ':' :: Text.digits stream) :
    source? "-map" value = some ⟨input, stream⟩ := by
  have hcolon : ∀ n, ':' ∉ Text.digits n :=
    fun n hmem => absurd (Text.isDigit_of_mem_digits hmem) (by decide)
  rw [source?, if_pos rfl, h, List.splitOn_append_cons_self_of_not_mem (hcolon input),
    List.splitOn_eq_singleton (hcolon stream)]
  simp

theorem source?_mapTrack (track : Track) :
    source? "-map" ("0:" ++ toString track.index) = some ⟨0, track.index⟩ := by
  refine source?_of_toList ?_
  rw [String.toList_append, Text.toList_toString]
  rfl

theorem source?_captions (number : Nat) :
    source? "-map" (toString number ++ ":0") = some ⟨number, 0⟩ := by
  refine source?_of_toList ?_
  rw [String.toList_append, Text.toList_toString]
  rfl

/-- Where tracks of the media file come from. -/
def mediaSources (tracks : List Track) : List Source := tracks.map fun track => ⟨0, track.index⟩

theorem length_mediaSources (tracks : List Track) : (mediaSources tracks).length = tracks.length :=
  List.length_map _

theorem items?_mapTrack (tracks : List Track) :
    items? source? (tracks.flatMap mapTrack) = some (mediaSources tracks) := by
  induction tracks with
  | nil => rfl
  | cons track tracks ih => exact items?_cons (source?_mapTrack track) ih

/-! ## Subtitles and their caption files -/

/-- Where written subtitles come from, when `used` caption inputs are in use already. -/
def subtitleSources (used : Nat) : List Track → List Source
  | [] => []
  | track :: rest =>
    if track.captions.isSome then ⟨used + 1, 0⟩ :: subtitleSources (used + 1) rest
    else ⟨0, track.index⟩ :: subtitleSources used rest

theorem items?_mapSubtitles (used : Nat) (tracks : List Track) :
    items? source? (mapSubtitles used tracks) = some (subtitleSources used tracks) := by
  fun_induction mapSubtitles used tracks with
  | case1 => rfl
  | case2 used track rest hcaptions ih =>
    rw [subtitleSources, if_pos hcaptions]
    exact items?_cons (source?_captions (used + 1)) ih
  | case3 used track rest hcaptions ih =>
    rw [subtitleSources, if_neg hcaptions]
    exact items?_cons (source?_mapTrack track) ih

/-- A subtitle without a caption file does not move the count. -/
example : subtitleSources 0
    [{ index := 3, kind := .subtitle, codec := "hdmv_pgs_subtitle", captions := some "3.srt" },
      { index := 4, kind := .subtitle, codec := "subrip" },
      { index := 5, kind := .subtitle, codec := "hdmv_pgs_subtitle", captions := some "5.srt" }] =
    [⟨1, 0⟩, ⟨0, 4⟩, ⟨2, 0⟩] := rfl

theorem length_subtitleSources (used : Nat) (tracks : List Track) :
    (subtitleSources used tracks).length = tracks.length := by
  fun_induction subtitleSources used tracks with
  | case1 => rfl
  | case2 used track rest hcaptions ih => simp [ih]
  | case3 used track rest hcaptions ih => simp [ih]

/-- **The caption inputs stay in step with the subtitles.** When what is left of the inputs are the
caption files of the subtitles that are left, each subtitle with a caption file comes from its
own. -/
theorem exists_source {inputs : List String} (used : Nat) (tracks : List Track)
    (h : inputs.drop (used + 1) = tracks.filterMap Track.captions) {place : Nat} {track : Track}
    (htrack : tracks[place]? = some track) :
    ∃ source : Source, (subtitleSources used tracks)[place]? = some source ∧
      (track.captions = none → source = ⟨0, track.index⟩) ∧
      ∀ file, track.captions = some file →
        0 < source.input ∧ inputs[source.input]? = some file ∧ source.stream = 0 := by
  fun_induction subtitleSources used tracks generalizing place with
  | case1 => simp at htrack
  | case2 used first rest hcaptions ih =>
    -- the first file that is left is this subtitle's, and the rest is left for the others
    obtain ⟨file, hfile⟩ := Option.isSome_iff_exists.1 hcaptions
    rw [List.filterMap_cons_some hfile] at h
    have hhead : inputs[used + 1]? = some file := by
      rw [← List.head?_drop, h, List.head?_cons]
    have hrest : inputs.drop (used + 1 + 1) = rest.filterMap Track.captions := by
      rw [← List.tail_drop, h, List.tail_cons]
    cases place with
    | zero =>
      obtain rfl : first = track := by simpa using htrack
      refine ⟨⟨used + 1, 0⟩, rfl, by simp [hfile], fun file' hfile' => ?_⟩
      obtain rfl : file = file' := by simpa [hfile] using hfile'
      exact ⟨Nat.succ_pos used, hhead, rfl⟩
    | succ place => exact ih hrest (by simpa using htrack)
  | case3 used first rest hcaptions ih =>
    -- no file is used up, and none is counted
    have hfirst : first.captions = none := by simpa using hcaptions
    rw [List.filterMap_cons_none hfirst] at h
    cases place with
    | zero =>
      obtain rfl : first = track := by simpa using htrack
      exact ⟨⟨0, first.index⟩, rfl, fun _ => rfl, by simp [hfirst]⟩
    | succ place => exact ih h (by simpa using htrack)

/-- The caption inputs are mapped in their order, each once. -/
theorem filter_subtitleSources (used : Nat) (tracks : List Track) :
    ((subtitleSources used tracks).map Source.input).filter (0 < ·) =
      List.range' (used + 1) (tracks.filterMap Track.captions).length := by
  fun_induction subtitleSources used tracks with
  | case1 => rfl
  | case2 used track rest hcaptions ih =>
    obtain ⟨file, hfile⟩ := Option.isSome_iff_exists.1 hcaptions
    rw [List.filterMap_cons_some hfile, List.length_cons, List.range'_succ, ← ih]
    simp
  | case3 used track rest hcaptions ih =>
    have htrack : track.captions = none := by simpa using hcaptions
    rw [List.filterMap_cons_none htrack, ← ih]
    simp

/-- Each caption input is mapped once. -/
theorem count_subtitleSources (tracks : List Track) {number : Nat} (hpos : 0 < number)
    (hle : number ≤ (tracks.filterMap Track.captions).length) :
    ((subtitleSources 0 tracks).map Source.input).count number = 1 := by
  -- without those from the media file the inputs are a range, where each number stands once
  rw [← List.count_filter (p := (0 < ·)) (by simpa using hpos), filter_subtitleSources]
  refine List.count_eq_one_of_mem List.nodup_range' ?_
  rw [List.mem_range'_1]
  omega

/-! ## Languages -/

/-- The language of a subtitle with a caption file, with its position. -/
def captionLanguage? (place : Track × Nat) : Option (Nat × String) :=
  match place.1.captions, place.1.language with
  | some _, some language => some (place.2, language)
  | _, _ => none

theorem captionLanguage?_eq_some_iff {place : Track × Nat} {position : Nat} {language : String} :
    captionLanguage? place = some (position, language) ↔
      place.2 = position ∧ place.1.captions.isSome ∧ place.1.language = some language := by
  rcases hcaptions : place.1.captions with _ | file <;>
    rcases hlanguage : place.1.language with _ | language' <;>
    simp [captionLanguage?, hcaptions, hlanguage]

theorem subtitleLanguage?_caption (position : Nat) (language : String) :
    subtitleLanguage? ("-metadata:s:s:" ++ toString position) ("language=" ++ language) =
      some (position, language) := by
  have hflag := List.isPrefixOf?_eq_some_iff_append_eq.2
    (Text.toList_toString position ▸ String.toList_append.symm :
      "-metadata:s:s:".toList ++ Text.digits position =
        ("-metadata:s:s:" ++ toString position).toList)
  have hvalue := List.isPrefixOf?_eq_some_iff_append_eq.2
    (String.toList_append (s := "language=") (t := language)).symm
  rw [subtitleLanguage?, hflag, hvalue]
  simp

theorem items?_captionLanguages (position : Nat) (tracks : List Track) :
    items? subtitleLanguage? (captionLanguages position tracks) =
      some ((tracks.zipIdx position).filterMap captionLanguage?) := by
  induction tracks generalizing position with
  | nil => rfl
  | cons track rest ih =>
    rw [captionLanguages, List.zipIdx_cons]
    -- the position moves on with every subtitle, whether something is written for it or not
    rcases hcaptions : track.captions with _ | file
    · rw [List.filterMap_cons_none (by simp [captionLanguage?, hcaptions])]
      exact ih (position + 1)
    · rcases hlanguage : track.language with _ | language
      · rw [List.filterMap_cons_none (by simp [captionLanguage?, hlanguage])]
        exact ih (position + 1)
      · rw [List.filterMap_cons_some
          (captionLanguage?_eq_some_iff.2 ⟨rfl, by simp [hcaptions], hlanguage⟩)]
        exact items?_cons (subtitleLanguage?_caption position language) (ih (position + 1))

theorem mem_captionLanguages {tracks : List Track} {position : Nat} {language : String} :
    (position, language) ∈ tracks.zipIdx.filterMap captionLanguage? ↔
      ∃ track, tracks[position]? = some track ∧ track.captions.isSome ∧
        track.language = some language := by
  constructor
  · intro hmem
    obtain ⟨⟨track, position'⟩, hplace, hread⟩ := List.mem_filterMap.1 hmem
    obtain ⟨rfl, hcaptions, hlanguage⟩ := captionLanguage?_eq_some_iff.1 hread
    exact ⟨track, List.mk_mem_zipIdx_iff_getElem?.1 hplace, hcaptions, hlanguage⟩
  · rintro ⟨track, htrack, hcaptions, hlanguage⟩
    exact List.mem_filterMap.2 ⟨(track, position), List.mk_mem_zipIdx_iff_getElem?.2 htrack,
      captionLanguage?_eq_some_iff.2 ⟨rfl, hcaptions, hlanguage⟩⟩

/-- The positions are those of different subtitles. -/
theorem nodup_captionLanguages (tracks : List Track) :
    ((tracks.zipIdx.filterMap captionLanguage?).map Prod.fst).Nodup := by
  have hplaces : (tracks.zipIdx.map Prod.snd).Nodup := by
    rw [List.zipIdx_map_snd]
    exact List.nodup_range'
  rw [List.Nodup, List.pairwise_map] at hplaces ⊢
  refine hplaces.filterMap _ fun place later hne item hread item' hread' => ?_
  rw [← (captionLanguage?_eq_some_iff.1 hread).1, ← (captionLanguage?_eq_some_iff.1 hread').1]
  exact hne

/-! ## The whole list -/

/-- The plan of a selection. -/
def plan (media : String) (selection : Selection) : Plan where
  inputs := media :: selection.captionFiles
  sources := mediaSources (selection.video ++ selection.audio) ++
    subtitleSources 0 selection.subtitle
  languages := selection.subtitle.zipIdx.filterMap captionLanguage?

theorem isAsked_plan (media : String) (selection : Selection) (output : Output) :
    (plan media selection).IsAsked output (Path.join output.folder (Path.stem media ++ ".mkv"))
      (arguments media selection output) := by
  refine ⟨input media ++ selection.captionFiles.flatMap input,
    (selection.video ++ selection.audio).flatMap mapTrack ++ mapSubtitles 0 selection.subtitle,
    captionLanguages 0 selection.subtitle, ?_, ?_, ?_, ?_⟩
  · simp only [arguments, Encoder.arguments, outputPath, List.append_assoc]
  · exact items?_input (media :: selection.captionFiles)
  · exact items?_append (items?_mapTrack _) (items?_mapSubtitles 0 _)
  · exact items?_captionLanguages 0 _

theorem muxes_plan (media : String) (selection : Selection) :
    (plan media selection).Muxes media selection where
  inputs_eq := rfl
  length_eq := by
    rw [plan, List.length_append, length_mediaSources, length_subtitleSources, List.length_append]
  plain place track htrack := by
    refine (List.getElem?_append_left ?_).trans ?_
    · rw [length_mediaSources]
      exact (List.getElem?_eq_some_iff.1 htrack).1
    · rw [mediaSources, List.getElem?_map, htrack, Option.map_some]
  subtitle place track htrack := by
    have hinputs : (media :: selection.captionFiles).drop (0 + 1) =
        selection.subtitle.filterMap Track.captions := rfl
    obtain ⟨source, hsource, hfrom⟩ := exists_source 0 selection.subtitle hinputs htrack
    refine ⟨source, ?_, hfrom⟩
    rw [← List.length_append, ← length_mediaSources, plan,
      List.getElem?_append_right (Nat.le_add_right _ _), Nat.add_sub_cancel_left, hsource]
  once number hpos hlt := by
    -- input 0 is none of the further ones, so only subtitles count
    have hmedia : ((mediaSources (selection.video ++ selection.audio)).map Source.input).count
        number = 0 := by
      rw [List.count_eq_zero]
      intro hmem
      obtain ⟨source, hsource, rfl⟩ := List.mem_map.1 hmem
      obtain ⟨track, -, rfl⟩ := List.mem_map.1 hsource
      exact hpos.false
    rw [plan, List.map_append, List.count_append, hmedia, Nat.zero_add]
    exact count_subtitleSources selection.subtitle hpos (Nat.le_of_lt_succ hlt)
  language _ _ := mem_captionLanguages
  languages_nodup := nodup_captionLanguages selection.subtitle

/-- **The arguments ask for the selection.** The argument list of a selection reads as a plan, and
the plan muxes the selection. The encoded file has the stem of the media file. -/
theorem arguments_plan (media : String) (selection : Selection) (output : Output) :
    ∃ plan : Plan,
      plan.IsAsked output (Path.join output.folder (Path.stem media ++ ".mkv"))
        (arguments media selection output) ∧
      plan.Muxes media selection :=
  ⟨plan media selection, isAsked_plan media selection output, muxes_plan media selection⟩

/-- A film with a bitmap subtitle between two of text, and captions in place of the bitmaps. -/
def captionedFilm : Selection where
  video := [{ index := 0, kind := .video, codec := "h264" }]
  audio := [{ index := 2, kind := .audio, codec := "ac3", language := some "eng" }]
  subtitle :=
    [{ index := 5, kind := .subtitle, codec := "subrip", language := some "eng" },
      { index := 3, kind := .subtitle, codec := "xsub", language := some "fre",
        captions := some "caps/film.3.srt" },
      { index := 4, kind := .subtitle, codec := "ass" }]

/-- Its pictures are encoded anew. -/
def smallFilm : Output :=
  ⟨"out", ["-y"], ⟨"libx265", ["-crf", "22"]⟩, .copy, ⟨"srt", []⟩⟩

/-- The captions are the second subtitle of the encoded film and the first stream of input 1. -/
theorem arguments_plan_captionedFilm :
    arguments "in/film.mp4" captionedFilm smallFilm =
        ["-y", "-i", "in/film.mp4", "-i", "caps/film.3.srt",
          "-map", "0:0", "-map", "0:2", "-map", "0:5", "-map", "1:0", "-map", "0:4",
          "-c:v", "libx265", "-crf", "22", "-c:a", "copy", "-c:s", "srt",
          "-metadata:s:s:1", "language=fre", "out/film.mkv"] ∧
      ∃ plan : Plan,
        plan.IsAsked smallFilm "out/film.mkv" (arguments "in/film.mp4" captionedFilm smallFilm) ∧
        plan.Muxes "in/film.mp4" captionedFilm := by
  refine ⟨by decide +kernel, ?_⟩
  have hpath : Path.join smallFilm.folder (Path.stem "in/film.mp4" ++ ".mkv") = "out/film.mkv" := by
    decide +kernel
  obtain ⟨plan, hasked, hmuxes⟩ := arguments_plan "in/film.mp4" captionedFilm smallFilm
  exact ⟨plan, hpath ▸ hasked, hmuxes⟩

end TrackSelect.Encode
