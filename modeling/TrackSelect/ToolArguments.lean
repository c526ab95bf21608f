import TrackSelect.Caption.OcrDump

/-!
# Arguments of the tools

The argument lists with which the prober and the encoder program are run for a media file. The
encoder program also extracts: the text of a track goes to its standard output, and so does the
OCR dump of a bitmap subtitle, which is drawn on an empty picture for that.
-/

namespace TrackSelect.ToolArguments

/-- Ask for a report on all tracks, as JSON. -/
def probe (media : String) : List String :=
  ["-v", "quiet", "-print_format", "json", "-show_format", "-show_streams", media]

/-- What every extraction starts with: only errors are reported, and nothing is read but the media
file. -/
def extraction (media : String) : List String := ["-v", "error", "-nostdin", "-i", media]

/-- Write the text of a track in some format to standard output. -/
def transcript (media : String) (track : Nat) (format : String) : List String :=
  extraction media ++ ["-map", "0:" ++ toString track, "-f", format, "pipe:1"]

/-- The key of the recognised text among the facts about a frame. -/
def textKey : String := String.ofList OcrDump.textKey.dropLast

/-- Draw a bitmap subtitle on a black canvas, drop repeated pictures, recognise the text of each
that is left and print it. -/
def ocrGraph (canvas : String) (track : Nat) : String :=
  "color=c=black:s=" ++ canvas ++ "[bg];[bg][0:" ++ toString track
    ++ "]overlay=shortest=1,mpdecimate,ocr,metadata=mode=print:key=" ++ textKey
    ++ ":file=pipe\\:1"

/-- Write the OCR dump of a bitmap subtitle to standard output. -/
def ocr (canvas media : String) (track : Nat) : List String :=
  extraction media ++ ["-filter_complex", ocrGraph canvas track, "-an", "-f", "null", "-"]

end TrackSelect.ToolArguments
