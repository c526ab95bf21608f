import TrackSelect.Text.Numeral

/-!
# Sample documents

Documents of any number of cues, and a probe report to go with them, for trying out selections
without a media file.
-/

namespace TrackSelect.Sample

/-- A clock time of whole seconds; the hours stay at zero. -/
def clock (seconds : Nat) : List Char :=
  "00:".toList ++ Text.padded 2 (seconds / 60 % 60) ++ ':' :: Text.padded 2 (seconds % 60)

/-- The cue of a SubRip document at a position, counted from zero: two and a half seconds, every
three seconds. -/
def subRipCue (position : Nat) : List Char :=
  let start := 3 * position
  Text.digits (position + 1) ++ '\n' :: clock start ++ ",000 --> ".toList ++ clock (start + 2)
    ++ ",500\nLine ".toList ++ Text.digits (position + 1) ++ "\n\n".toList

/-- A SubRip document. -/
def subRip (cues : Nat) : String := String.ofList ((List.range cues).flatMap subRipCue)

/-- A whole number of half seconds, as a number of seconds. -/
def halves (n : Nat) : List Char :=
  Text.digits (n / 2) ++ if n % 2 = 0 then [] else ['.', '5']

/-- A frame of an OCR dump at a number of half seconds. -/
def frame (number time : Nat) (text : List Char) : List Char :=
  "frame:".toList ++ Text.digits number ++ "    pts:".toList ++ Text.digits (500 * time)
    ++ "    pts_time:".toList ++ halves time ++ "\nlavfi.ocr.text=".toList ++ text ++ ['\n']

/-- The two frames of a caption in an OCR dump: one that shows it, and an empty one two and a half
seconds later. -/
def dumpCue (position : Nat) : List Char :=
  frame (2 * position) (8 * position) ("Caption ".toList ++ Text.digits (position + 1))
    ++ frame (2 * position + 1) (8 * position + 5) []

/-- An OCR dump, behind a line of another program. -/
def ocrDump (captions : Nat) : String :=
  String.ofList ("ffmpeg version n6.1 Copyright (c) 2000-2023 the FFmpeg developers\n".toList
    ++ (List.range captions).flatMap dumpCue)

/-- An OCR dump with a marker that has no text line. -/
def malformedDump : String :=
  "frame:0    pts:1000    pts_time:1.0\nlavfi.ocr.text=Hello\n"
    ++ "frame:1    pts:2000    pts_time:2.0\n"
    ++ "frame:2    pts:3000    pts_time:3.0\nlavfi.ocr.text=\n"

/-- An OCR dump whose only caption is never closed. -/
def openDump : String := "frame:0    pts:1000    pts_time:1\nlavfi.ocr.text=Hi\n"

/-- One record of a sample report: index, type, codec and further members. -/
def record (index : Nat) (kind codec more : String) : String :=
  "\x7b \"index\": " ++ toString index ++ ", \"codec_type\": \"" ++ kind
    ++ "\", \"codec_name\": \"" ++ codec ++ "\"" ++ more ++ " \x7d"

/-- A language tag, as a further member of a record. -/
def tagged (language : String) : String :=
  ", \"tags\": \x7b \"language\": \"" ++ language ++ "\" \x7d"

/-- The report of a film with two pictures, three sound tracks, four subtitles of which one is a
bitmap, and an attachment. -/
def movieReport : String :=
  "\x7b \"streams\": [" ++ ", ".intercalate [
    record 0 "video" "h264" (", \"width\": 1920, \"duration\": \"5400.5\"" ++ tagged "und"),
    record 1 "video" "h264" ", \"width\": 1280, \"duration\": \"5400.5\"",
    record 2 "audio" "ac3" (tagged "eng"),
    record 3 "audio" "ac3" (tagged "fre"),
    record 4 "audio" "aac" (tagged "eng"),
    record 5 "subtitle" "subrip" (tagged "eng"),
    record 6 "subtitle" "subrip" (tagged "eng"),
    record 7 "subtitle" "hdmv_pgs_subtitle"
      ", \"tags\": \x7b \"language\": \"eng\", \"NUMBER_OF_FRAMES-eng\": \"96\" \x7d",
    record 8 "subtitle" "subrip" (tagged "spa"),
    record 9 "attachment" "ttf" ""] ++ "] \x7d"

/-- The report of a file that the prober could not read. -/
def emptyReport : String := "\x7b \"format\": \x7b \"filename\": \"broken.mkv\" \x7d \x7d"

end TrackSelect.Sample
