import TrackSelect.SettingsFile.Validation

/-!
# Validated settings

Settings are validated when they are the defaults or come from a file (`Settings.IsValidated`).
What matters to an ingestion is that only subtitles are searched for foreign audio then: the
chains for video and audio have rules that can be applied (`IsValidated.video_rules`,
`IsValidated.audio_rules`).
-/

namespace TrackSelect

/-- A bind that succeeds has succeeded in both parts. -/
theorem bind_ok {ε α β : Type} {first : Except ε α} {next : α → Except ε β} {b : β}
    (h : (first >>= next) = .ok b) : ∃ a, first = .ok a ∧ next a = .ok b := by
  cases first with
  | error fault => cases h
  | ok a => exact ⟨a, rfl, h⟩

/-- What some list was made into, element by element, was made of its elements. -/
theorem mem_of_mapM_ok {ε α β : Type} {f : α → Except ε β} {source : List α} :
    ∀ {made : List β}, source.mapM f = .ok made → ∀ b ∈ made, ∃ a ∈ source, f a = .ok b := by
  induction source with
  | nil =>
    intro made h b hb
    cases h
    cases hb
  | cons a rest ih =>
    intro made h b hb
    rw [List.mapM_cons] at h
    obtain ⟨first, hfirst, h⟩ := bind_ok h
    obtain ⟨others, hothers, h⟩ := bind_ok h
    cases h
    rcases List.mem_cons.1 hb with rfl | hb
    · exact ⟨a, List.mem_cons_self, hfirst⟩
    · obtain ⟨source, hsource, hmade⟩ := ih hothers b hb
      exact ⟨source, List.mem_cons_of_mem a hsource, hmade⟩

/-- An entry stands for a search for foreign audio among subtitles only. -/
theorem RuleEntry.entryRule?_ne_foreignAudio {kind : Kind} (hkind : kind ≠ .subtitle)
    (key : String) (value : Toml) : entryRule? kind key value ≠ some .foreignAudio := by
  unfold entryRule?
  split
  · simp
  · cases value.string? <;> simp
  · simp
  · simp
  · split
    · exact absurd rfl hkind
    · simp
  · simp

/-- A table with a rule for another kind of track is no search for foreign audio. -/
theorem RuleEntry.rule_ne_foreignAudio {kind : Kind} (hkind : kind ≠ .subtitle)
    (entries : RuleEntry) : rule kind entries ≠ .ok .foreignAudio := by
  intro h
  unfold rule at h
  split at h
  · next key value =>
    cases hrule : entryRule? kind key value with
    | none => simp [hrule] at h
    | some found =>
      simp only [hrule, Except.ok.injEq] at h
      exact entryRule?_ne_foreignAudio hkind key value (h ▸ hrule)
  · simp at h

/-- A chain for another kind of track does not search for foreign audio. -/
theorem Chain.ofEntries_rules {kind : Kind} (hkind : kind ≠ .subtitle) {entries : List RuleEntry}
    {chain : Chain} (h : ofEntries kind entries = .ok chain) : .foreignAudio ∉ chain.rules := by
  unfold ofEntries at h
  cases hrules : entries.mapM (RuleEntry.rule kind) with
  | error fault => simp [hrules, Except.map] at h
  | ok rules =>
    simp only [hrules, Except.map, Except.ok.injEq] at h
    subst h
    intro hmem
    obtain ⟨entry, -, hentry⟩ := mem_of_mapM_ok hrules .foreignAudio hmem
    exact RuleEntry.rule_ne_foreignAudio hkind entry hentry

/-- The chains of a settings file are made of its rules. -/
theorem SettingsFile.settings_chains {file : SettingsFile} {settings : Settings}
    (h : file.settings = .ok settings) :
    Chain.ofEntries .video file.selection.video = .ok settings.video ∧
      Chain.ofEntries .audio file.selection.audio = .ok settings.audio := by
  unfold SettingsFile.settings at h
  by_cases hbatch : file.selection.batchSize.getD Settings.default.batchSize = 0
  · simp only [hbatch, if_true] at h
    cases h
  · simp only [hbatch, if_false] at h
    obtain ⟨subtitle, -, h⟩ := bind_ok h
    obtain ⟨video, hvideo, h⟩ := bind_ok h
    obtain ⟨audio, haudio, h⟩ := bind_ok h
    -- the logging section comes last, whether there is one or not
    split at h
    all_goals
      obtain ⟨logging, -, h⟩ := bind_ok h
      cases h
      exact ⟨hvideo, haudio⟩

namespace Settings

/-- Settings that an ingestion can be given: the defaults, or what a settings file says. -/
def IsValidated (settings : Settings) : Prop :=
  settings = .default ∨ ∃ file : SettingsFile, file.settings = .ok settings

/-- The chain for video has rules that can be applied. -/
theorem IsValidated.video_rules {settings : Settings} (h : settings.IsValidated) :
    .foreignAudio ∉ settings.video.rules := by
  rcases h with rfl | ⟨file, hfile⟩
  · decide
  · exact Chain.ofEntries_rules (by decide) (SettingsFile.settings_chains hfile).1

/-- So has the chain for audio. -/
theorem IsValidated.audio_rules {settings : Settings} (h : settings.IsValidated) :
    .foreignAudio ∉ settings.audio.rules := by
  rcases h with rfl | ⟨file, hfile⟩
  · decide
  · exact Chain.ofEntries_rules (by decide) (SettingsFile.settings_chains hfile).2

end Settings

end TrackSelect
