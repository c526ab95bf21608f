import TrackSelect.Proofs.Settings.Meaning
import TrackSelect.Proofs.Settings.Records
import TrackSelect.Toml.Reader

/-!
# Settings files that are written

A settings file that was read is written without loss: if the TOML comes back, the written text is
read as the same file (`SettingsFile.read?_text`), whether or not settings can be made of it.

The fields of each section are listed once (`fields`), and both the writing of the section and the
reading of it go by that list. Only two things have to be known of what was read: that whole numbers
are small enough to be read again, and that tables of rules are sorted by key, so that they are the
same when they are sorted again.
-/

namespace TrackSelect

namespace Toml

/-- The top table of a text that has these characters. -/
def readChars? (cs : List Char) : Option Toml := do
  let cs := dropMark cs
  let statements ← statements? (cs.length + 1) cs
  let draft ← statements.foldlM Draft.extend Draft.empty
  some (.table (grownEntries draft.top))

theorem read?_ofList (cs : List Char) : read? (String.ofList cs) = readChars? cs := by
  rw [read?, String.toList_ofList]
  rfl

end Toml

open Toml

/-! ## Sections

`fields` lists what may stand in a section, in the order of the places that the fields have when the
section is read from an array. -/

namespace EncoderEntry

def fields (e : EncoderEntry) : List (String × Option Toml) :=
  [("encoder", some (string e.name)), ("options", some (ofStrings e.options))]

theorem returns (e : EncoderEntry) : Returns ofToml? e.toToml e := by
  intro read (h : Rereads (table (setFields e.fields)) read)
  have hfield := field?_of_rereads h (by simp [fields])
  obtain ⟨value, hvalue, hname⟩ := required_returns (string?_returns e.name)
    (hfield 0 "encoder" rfl)
  have hoptions := listOrNone?_returns (strings_returns e.options) (hfield 1 "options" rfl)
  simp [ofToml?, isRecord_of_rereads h, hvalue, hname, hoptions]

end EncoderEntry

namespace CaptionsSection

def fields (s : CaptionsSection) : List (String × Option Toml) := [("dir", s.folder.map string)]

theorem toToml_eq (s : CaptionsSection) : s.toToml = table (setFields s.fields) := by
  simp [toToml, fields, setFields_cons, setFields_nil, setField_map]

theorem returns (s : CaptionsSection) : Returns ofToml? s.toToml s := by
  intro read h
  rw [toToml_eq] at h
  have hfield := field?_of_rereads h (by simp [fields])
  have hfolder := optional?_returns (fun text _ => string?_returns text) (hfield 0 "dir" rfl)
  simp [ofToml?, isRecord_of_rereads h, hfolder]

end CaptionsSection

namespace LoggingSection

def fields (s : LoggingSection) : List (String × Option Toml) :=
  [("level", some (string s.level)), ("format", s.format.map string)]

theorem toToml_eq (s : LoggingSection) : s.toToml = table (setFields s.fields) := by
  simp [toToml, fields, setFields_cons, setFields_nil, setField_map, setField_some]

theorem returns (s : LoggingSection) : Returns ofToml? s.toToml s := by
  intro read h
  rw [toToml_eq] at h
  have hfield := field?_of_rereads h (by simp [fields])
  obtain ⟨value, hvalue, hlevel⟩ := required_returns (string?_returns s.level)
    (hfield 0 "level" rfl)
  have hformat := optional?_returns (fun text _ => string?_returns text) (hfield 1 "format" rfl)
  simp [ofToml?, isRecord_of_rereads h, hvalue, hlevel, hformat]

end LoggingSection

namespace OutputSection

def fields (s : OutputSection) : List (String × Option Toml) :=
  [("path", some (string s.folder)), ("options", some (ofStrings s.options)),
   ("video", s.video.map EncoderEntry.toToml), ("audio", s.audio.map EncoderEntry.toToml),
   ("subtitle", s.subtitle.map EncoderEntry.toToml)]

theorem toToml_eq (s : OutputSection) : s.toToml = table (setFields s.fields) := by
  simp [toToml, fields, setFields_cons, setFields_nil, setField_map, setField_some]

theorem returns (s : OutputSection) : Returns ofToml? s.toToml s := by
  intro read h
  rw [toToml_eq] at h
  have hfield := field?_of_rereads h (by simp [fields])
  obtain ⟨value, hvalue, hfolder⟩ := required_returns (string?_returns s.folder)
    (hfield 0 "path" rfl)
  have hoptions := listOrNone?_returns (strings_returns s.options) (hfield 1 "options" rfl)
  have hvideo := optional?_returns (fun e _ => EncoderEntry.returns e) (hfield 2 "video" rfl)
  have haudio := optional?_returns (fun e _ => EncoderEntry.returns e) (hfield 3 "audio" rfl)
  have hsubtitle := optional?_returns (fun e _ => EncoderEntry.returns e) (hfield 4 "subtitle" rfl)
  simp [ofToml?, isRecord_of_rereads h, hvalue, hfolder, hoptions, hvideo, haudio, hsubtitle]

end OutputSection

namespace ToolsSection

def fields (s : ToolsSection) : List (String × Option Toml) :=
  [("ffprobe", s.prober.map string), ("ffmpeg", s.encoder.map string),
   ("max_output_kb", s.outputLimit.map ofNatural),
   ("max_ocr_output_kb", s.ocrOutputLimit.map ofNatural),
   ("wait_cap_secs", s.waitLimit.map ofNatural),
   ("encode_wait_cap_secs", s.encodeWaitLimit.map ofNatural),
   ("ocr_canvas", s.ocrCanvas.map string), ("retry_attempts", s.attempts.map ofNatural),
   ("retry_backoff_ms", s.pause.map ofNatural)]

theorem toToml_eq (s : ToolsSection) : s.toToml = table (setFields s.fields) := by
  simp [toToml, fields, setFields_cons, setFields_nil, setField_map]

theorem returns {value : Toml} {s : ToolsSection} (hs : ofToml? value = some s) :
    Returns ofToml? s.toToml s := by
  intro read h
  rw [toToml_eq] at h
  simp only [ofToml?, Option.bind_eq_bind, Option.bind_eq_some_iff, Option.some.injEq] at hs
  obtain ⟨-, -, _, -, _, -, output, houtput, ocrOutput, hocrOutput, wait, hwait, encodeWait,
    hencodeWait, _, -, attempts, hattempts, pause, hpause, rfl⟩ := hs
  have hfield := field?_of_rereads h (by simp [fields])
  have hprober := optional?_returns (fun text _ => string?_returns text) (hfield 0 "ffprobe" rfl)
  have hencoder := optional?_returns (fun text _ => string?_returns text) (hfield 1 "ffmpeg" rfl)
  have houtput := optional?_returns (returns_of_optional_natural? houtput)
    (hfield 2 "max_output_kb" rfl)
  have hocrOutput := optional?_returns (returns_of_optional_natural? hocrOutput)
    (hfield 3 "max_ocr_output_kb" rfl)
  have hwait := optional?_returns (returns_of_optional_natural? hwait)
    (hfield 4 "wait_cap_secs" rfl)
  have hencodeWait := optional?_returns (returns_of_optional_natural? hencodeWait)
    (hfield 5 "encode_wait_cap_secs" rfl)
  have hcanvas := optional?_returns (fun text _ => string?_returns text)
    (hfield 6 "ocr_canvas" rfl)
  have hattempts := optional?_returns (returns_of_optional_natural? hattempts)
    (hfield 7 "retry_attempts" rfl)
  have hpause := optional?_returns (returns_of_optional_natural? hpause)
    (hfield 8 "retry_backoff_ms" rfl)
  simp [ofToml?, isRecord_of_rereads h, hprober, hencoder, houtput, hocrOutput, hwait,
    hencodeWait, hcanvas, hattempts, hpause]

end ToolsSection

/-! ### Rules -/

namespace RuleEntry

/-- The values of a rule come back when they are read again. -/
def IsReadBack (entry : RuleEntry) : Prop := ∀ pair ∈ entry, pair.2.IsReadBack

/-- A table that stands in a file that was read. -/
def WasRead (entry : RuleEntry) : Prop := ∃ value, ofToml? value = some entry

/-- What was read has its keys in order, and those of the tables in its values. -/
theorem WasRead.ascending {entry : RuleEntry} (h : entry.WasRead) :
    Keyed.Ascending entry ∧ ∀ pair ∈ entry, pair.2.AllTables Keyed.Ascending := by
  obtain ⟨value, hvalue⟩ := h
  obtain ⟨entries, -, hsome⟩ := Option.bind_eq_some_iff.1 hvalue
  obtain ⟨again, hagain, rfl⟩ := Option.map_eq_some_iff.1 hsome
  have hordered := entriesAllTables_iff.1 (entriesAllTables_of_byKey? hagain)
  exact ⟨Keyed.ofList_ascending again, fun pair hpair =>
    hordered pair (Keyed.mem_of_mem_ofList hpair)⟩

/-- What was read comes back, if no table in it has the key that marks a date-time. -/
theorem WasRead.isReadBack {entry : RuleEntry} (h : entry.WasRead)
    (hunmarked : EntriesAllTables Unmarked entry) : entry.IsReadBack :=
  fun pair hpair => isReadBack_of_allTables (h.ascending.2 pair hpair)
    (entriesAllTables_iff.1 hunmarked pair hpair)

/-- A rule that was read is read again if its values are. -/
theorem WasRead.returns {entry : RuleEntry} (h : entry.WasRead) (hvalues : entry.IsReadBack) :
    Returns ofToml? entry.toToml entry := by
  rintro read ⟨between, others, rfl, hbetween, hperm⟩
  exact ofList_of_reread h.ascending.1 hvalues hbetween hperm

end RuleEntry

namespace RuleSetEntry

def fields (set : RuleSetEntry) : List (String × Option Toml) :=
  [("name", set.name.map string), ("rules", some (array (set.rules.map RuleEntry.toToml)))]

theorem toToml_eq (set : RuleSetEntry) : set.toToml = table (setFields set.fields) := by
  simp [toToml, fields, setFields_cons, setFields_nil, setField_map, setField_some]

theorem returns {set : RuleSetEntry}
    (hrules : ∀ entry ∈ set.rules, Returns RuleEntry.ofToml? entry.toToml entry) :
    Returns ofToml? set.toToml set := by
  intro read h
  rw [toToml_eq] at h
  have hfield := field?_of_rereads h (by simp [fields])
  have hname := optional?_returns (fun text _ => string?_returns text) (hfield 0 "name" rfl)
  obtain ⟨written, hwritten, hagain⟩ := required_returns (list?_returns hrules)
    (hfield 1 "rules" rfl)
  simp [ofToml?, isRecord_of_rereads h, hname, hwritten, hagain]

theorem rules_read {value : Toml} {set : RuleSetEntry} (h : ofToml? value = some set) :
    ∀ entry ∈ set.rules, entry.WasRead := by
  simp only [ofToml?, Option.bind_eq_bind, Option.bind_eq_some_iff, Option.some.injEq] at h
  obtain ⟨-, -, name, -, _, -, rules, hrules, rfl⟩ := h
  exact of_mem_list? hrules

end RuleSetEntry

namespace SelectionSection

def fields (s : SelectionSection) : List (String × Option Toml) :=
  [("image_codecs", s.imageCodecs.map ofStrings),
   ("foreign_batch_size", s.batchSize.map ofNatural),
   ("video", some (array (s.video.map RuleEntry.toToml))),
   ("audio", some (array (s.audio.map RuleEntry.toToml))),
   ("subtitle", some (array (s.subtitle.map RuleSetEntry.toToml)))]

theorem toToml_eq (s : SelectionSection) : s.toToml = table (setFields s.fields) := by
  simp [toToml, fields, setFields_cons, setFields_nil, setField_map, setField_some]

theorem returns {value : Toml} {s : SelectionSection} (hs : ofToml? value = some s)
    (hvideo : ∀ entry ∈ s.video, Returns RuleEntry.ofToml? entry.toToml entry)
    (haudio : ∀ entry ∈ s.audio, Returns RuleEntry.ofToml? entry.toToml entry)
    (hsubtitle : ∀ set ∈ s.subtitle, Returns RuleSetEntry.ofToml? set.toToml set) :
    Returns ofToml? s.toToml s := by
  intro read h
  rw [toToml_eq] at h
  simp only [ofToml?, Option.bind_eq_bind, Option.bind_eq_some_iff, Option.some.injEq] at hs
  obtain ⟨-, -, _, -, batchSize, hbatchSize, _, -, _, -, _, -, rfl⟩ := hs
  have hfield := field?_of_rereads h (by simp [fields])
  have hcodecs := optional?_returns (fun texts _ => strings_returns texts)
    (hfield 0 "image_codecs" rfl)
  have hbatchSize := optional?_returns (returns_of_optional_natural? hbatchSize)
    (hfield 1 "foreign_batch_size" rfl)
  have hvideo := listOrNone?_returns (list?_returns hvideo) (hfield 2 "video" rfl)
  have haudio := listOrNone?_returns (list?_returns haudio) (hfield 3 "audio" rfl)
  have hsubtitle := listOrNone?_returns (list?_returns hsubtitle) (hfield 4 "subtitle" rfl)
  simp [ofToml?, isRecord_of_rereads h, hcodecs, hbatchSize, hvideo, haudio, hsubtitle]

theorem rules_read {value : Toml} {s : SelectionSection} (h : ofToml? value = some s) :
    (∀ entry ∈ s.video, entry.WasRead) ∧ (∀ entry ∈ s.audio, entry.WasRead) ∧
      ∀ set ∈ s.subtitle, ∀ entry ∈ set.rules, entry.WasRead := by
  simp only [ofToml?, Option.bind_eq_bind, Option.bind_eq_some_iff, Option.some.injEq] at h
  obtain ⟨-, -, _, -, _, -, video, hvideo, audio, haudio, subtitle, hsubtitle, rfl⟩ := h
  refine ⟨of_mem_listOrNone? hvideo, of_mem_listOrNone? haudio, fun set hset => ?_⟩
  obtain ⟨item, hitem⟩ := of_mem_listOrNone? hsubtitle set hset
  exact RuleSetEntry.rules_read hitem

end SelectionSection

/-! ## Files -/

namespace SettingsFile

def fields (file : SettingsFile) : List (String × Option Toml) :=
  [("selection", some file.selection.toToml), ("tools", file.tools.map ToolsSection.toToml),
   ("captions", file.captions.map CaptionsSection.toToml),
   ("output", file.output.map OutputSection.toToml),
   ("logging", file.logging.map LoggingSection.toToml)]

theorem entries_eq (file : SettingsFile) : file.entries = setFields file.fields := by
  simp [entries, fields, setFields_cons, setFields_nil, setField_map, setField_some]

/-- The TOML that a file is written as is read back: the text as the same entries, though their
order may differ, and the values of rules as the same values. For a file that was read the second
can only fail for a table with the key that marks a date-time (`RuleEntry.WasRead.isReadBack`). -/
structure IsReadBack (file : SettingsFile) : Prop where
  text : ∃ read, Toml.read? file.text = some read ∧ Toml.Rereads (table file.entries) read
  values : ∀ entry ∈ file.ruleEntries, RuleEntry.IsReadBack entry.2

/-- The tables of rules are those of the three places. -/
theorem forall_mem_ruleEntries {file : SettingsFile} {p : RuleEntry → Prop} :
    (∀ entry ∈ file.ruleEntries, p entry.2) ↔
      (∀ entry ∈ file.selection.video, p entry) ∧ (∀ entry ∈ file.selection.audio, p entry) ∧
        ∀ set ∈ file.selection.subtitle, ∀ entry ∈ set.rules, p entry := by
  constructor
  · intro h
    refine ⟨fun entry hentry => h (.video, entry) ?_, fun entry hentry => h (.audio, entry) ?_,
      fun set hset entry hentry => h (.subtitle, entry) ?_⟩
    · simp [ruleEntries, hentry]
    · simp [ruleEntries, hentry]
    · simp only [ruleEntries, RuleSetEntry.ruleEntries, List.mem_append, List.mem_flatMap]
      exact Or.inl (Or.inl ⟨set, hset, List.mem_map_of_mem hentry⟩)
  · rintro ⟨hvideo, haudio, hsubtitle⟩ entry hentry
    simp only [ruleEntries, RuleSetEntry.ruleEntries, List.mem_append, List.mem_flatMap,
      List.mem_map] at hentry
    obtain (⟨set, hset, table, htable, rfl⟩ | ⟨table, htable, rfl⟩) | ⟨table, htable, rfl⟩ := hentry
    · exact hsubtitle set hset table htable
    · exact hvideo table htable
    · exact haudio table htable

theorem ruleEntries_read {value : Toml} {file : SettingsFile} (h : ofToml? value = some file) :
    ∀ entry ∈ file.ruleEntries, RuleEntry.WasRead entry.2 := by
  simp only [ofToml?, Option.bind_eq_bind, Option.bind_eq_some_iff, Option.some.injEq] at h
  obtain ⟨-, -, _, -, selection, hselection, _, -, _, -, _, -, _, -, rfl⟩ := h
  exact forall_mem_ruleEntries.2 (SelectionSection.rules_read hselection)

theorem returns {value : Toml} {file : SettingsFile} (hfile : ofToml? value = some file)
    (hvalues : ∀ entry ∈ file.ruleEntries, RuleEntry.IsReadBack entry.2) :
    Returns ofToml? (table file.entries) file := by
  intro read h
  rw [entries_eq] at h
  have hrules : ∀ entry ∈ file.ruleEntries,
      Returns RuleEntry.ofToml? (RuleEntry.toToml entry.2) entry.2 := fun entry hentry =>
    (ruleEntries_read hfile entry hentry).returns (hvalues entry hentry)
  obtain ⟨hvideo, haudio, hsubtitle⟩ := forall_mem_ruleEntries
    (p := fun entry => Returns RuleEntry.ofToml? entry.toToml entry).1 hrules
  have hsets := fun set hset => RuleSetEntry.returns (hsubtitle set hset)
  simp only [ofToml?, Option.bind_eq_bind, Option.bind_eq_some_iff, Option.some.injEq] at hfile
  obtain ⟨-, -, _, -, selection, hselection, tools, htools, captions, -, output, -, logging, -,
    rfl⟩ := hfile
  have hfield := field?_of_rereads h (by simp [fields])
  obtain ⟨written, hwritten, hselection⟩ := required_returns
    (SelectionSection.returns hselection hvideo haudio hsets) (hfield 0 "selection" rfl)
  have htools := optional?_returns (fun s hs => by
    obtain ⟨value, hvalue⟩ := of_mem_optional? htools s hs
    exact ToolsSection.returns hvalue) (hfield 1 "tools" rfl)
  have hcaptions := optional?_returns (fun s _ => CaptionsSection.returns s)
    (hfield 2 "captions" rfl)
  have houtput := optional?_returns (fun s _ => OutputSection.returns s) (hfield 3 "output" rfl)
  have hlogging := optional?_returns (fun s _ => LoggingSection.returns s) (hfield 4 "logging" rfl)
  simp [ofToml?, isRecord_of_rereads h, hwritten, hselection, htools, hcaptions, houtput, hlogging]

theorem settings_of_read? {text : String} {file : SettingsFile} (h : read? text = some file) :
    Settings.read text = file.settings := by
  simp only [Settings.read, h]

/-- **Writing a file loses nothing.** If the TOML that a file is written as is read back, the
written text is read as the file that was read before, with the same settings or the same fault. -/
theorem read?_text {text : String} {file : SettingsFile} (hfile : read? text = some file)
    (hback : file.IsReadBack) :
    read? file.text = some file ∧ Settings.read file.text = Settings.read text := by
  obtain ⟨value, -, hvalue⟩ := Option.bind_eq_some_iff.1 hfile
  obtain ⟨read, hread, hreread⟩ := hback.text
  have hagain : read? file.text = some file := by
    rw [read?, hread]
    exact returns hvalue hback.values read hreread
  exact ⟨hagain, (settings_of_read? hagain).trans (settings_of_read? hfile).symm⟩

/-- A file with lists that are empty or left out, and with tables of none, several and one key. -/
def varied : SettingsFile where
  selection :=
    { imageCodecs := some []
      batchSize := none
      video :=
        [[],
          [("a", .boolean true),
            ("z", .table [("b", .array [.integer 1, .datetime (.date ⟨1979, 5, 27⟩), .string "s"]),
              ("y", .table [("c", .float (.infinity false))])])]]
      audio := [[("language", .string "eng")]]
      subtitle := [⟨none, []⟩] }
  tools := some { ToolsSection.empty with attempts := some 3 }
  captions := none
  output := some ⟨"out", [], some ⟨"copy", []⟩, none, none⟩
  logging := none

/-- A text that says the same, in another order than it is written in. -/
def variedLines : List String :=
  ["[output]", "path = 'out'", "video.encoder = 'copy'", "[tools]", "retry_attempts = 3",
    "[[selection.video]]", "[[selection.video]]", "z.y.c = inf", "z.b = [1, 1979-05-27, 's']",
    "a = true", "[[selection.audio]]", "language = 'eng'", "[[selection.subtitle]]", "rules = []",
    "[selection]", "image_codecs = []"]

def variedText : String := String.ofList (variedLines.flatMap fun line => line.toList ++ ['\n'])

/-- What the text says, in its own order. -/
def variedRead : Toml :=
  .table
    [("output", .table [("path", .string "out"), ("video", .table [("encoder", .string "copy")])]),
      ("tools", .table [("retry_attempts", .integer 3)]),
      ("selection", .table
        [("video", .array [.table [], .table
            [("z", .table [("y", .table [("c", .float (.infinity false))]),
                ("b", .array [.integer 1, .datetime (.date ⟨1979, 5, 27⟩), .string "s"])]),
              ("a", .boolean true)]]),
          ("audio", .array [.table [("language", .string "eng")]]),
          ("subtitle", .array [.table [("rules", .array [])]]),
          ("image_codecs", .array [])])]

/-- It is read as the same file before and after it is written, and with the same fault. -/
theorem read?_text_varied :
    read? variedText = some varied ∧ varied.IsReadBack ∧ read? varied.text = some varied ∧
      Settings.read varied.text =
        .error (.invalidRule "video" "expected exactly one key per rule, found []") := by
  have hread : Toml.read? variedText = some variedRead :=
    (read?_ofList _).trans (by decide +kernel)
  have hfile : ofToml? variedRead = some varied := by rfl
  have hwritten : Toml.read? varied.text = some (table varied.entries) :=
    (read?_ofList _).trans (by decide +kernel)
  have hunmarked : ∀ entry ∈ varied.ruleEntries, EntriesAllTables Unmarked entry.2 := by
    simp [varied, ruleEntries, RuleSetEntry.ruleEntries, AllTables, ItemsAllTables,
      EntriesAllTables, Unmarked, datetimeKey]
  have hback : varied.IsReadBack := ⟨⟨_, hwritten, rereads_self _⟩, fun entry hentry =>
    (ruleEntries_read hfile entry hentry).isReadBack (hunmarked entry hentry)⟩
  have hvaried : read? variedText = some varied := by
    rw [read?, hread]
    exact hfile
  obtain ⟨hagain, hsettings⟩ := read?_text hvaried hback
  refine ⟨hvaried, hback, hagain, (hsettings.trans (settings_of_read? hvaried)).trans ?_⟩
  rfl

end SettingsFile

end TrackSelect
