import Mathlib.Data.List.Forall2
import TrackSelect.Proofs.Settings.Validated
import TrackSelect.Proofs.Text.Numeral

/-!
# What the rules of a settings file mean

`RuleEntry.Means` has one constructor for every shape that a rule can have in a file. A table means
at most one rule, and it is made into a rule just when it means one (`RuleEntry.rule_ok_iff`).

The tables of a file are looked at in an order of their own: those of the rule-sets come first,
although a file lists video and audio before them (`SettingsFile.ruleEntries`). The first table
without a meaning in that order is what the settings fail for, and settings that do not fail say
what the tables mean, each in its place (`SettingsFile.settings_meaning`).
-/

namespace TrackSelect

/-! ## One rule -/

/-- How names may be given: a string, or an array of strings. -/
inductive Toml.Lists : Toml → List String → Prop where
  | single (text : String) : Lists (.string text) [text]
  | several (texts : List String) : Lists (.array (texts.map .string)) texts

/-- The rules that tables stand for in a chain of some kind. -/
inductive RuleEntry.Means (kind : Kind) : RuleEntry → Rule → Prop where
  | extremeWidth (extreme : Extreme) :
    Means kind [("resolution", .string extreme.name)] (.resolution (.extreme extreme))
  | writtenWidth {text : String} {width : Nat} (hwrites : Text.Writes (Text.trim text.toList) width)
    (hwidth : width < twoTo 32) :
    Means kind [("resolution", .string text)] (.resolution (.exact width))
  | width {width : Nat} (hwidth : width < twoTo 32) :
    Means kind [("resolution", .integer width)] (.resolution (.exact width))
  | duration (extreme : Extreme) :
    Means kind [("duration", .string extreme.name)] (.duration extreme)
  | language {value : Toml} {tags : List String} (hlists : value.Lists tags) :
    Means kind [("language", value)] (.language tags)
  | codec {value : Toml} {codecs : List String} (hlists : value.Lists codecs) :
    Means kind [("codec", value)] (.codec codecs)
  | foreign (hkind : kind = .subtitle) : Means kind [("foreign", .boolean true)] .foreignAudio

/-- A table that stands for a rule. -/
def RuleEntry.IsRule (kind : Kind) (entry : RuleEntry) : Prop := ∃ rule, Means kind entry rule

/-- What is said of a table that stands for none. -/
def RuleEntry.complaint : RuleEntry → String
  | [(key, value)] => key ++ " = " ++ value.text
  | entry => "expected exactly one key per rule, found " ++ Text.quotedList (Keyed.keys entry)

theorem Extreme.ofName?_eq_some {text : String} {extreme : Extreme} :
    ofName? text = some extreme ↔ text = extreme.name := by
  constructor
  · intro h
    unfold ofName? at h
    split at h <;> cases h <;> rfl
  · rintro rfl
    cases extreme <;> rfl

theorem Toml.mapM_string? {items : List Toml} {texts : List String} :
    items.mapM string? = some texts ↔ items = texts.map .string := by
  induction items generalizing texts with
  | nil => cases texts <;> simp
  | cons item rest ih =>
    rw [List.mapM_cons]
    cases item with
    | string text =>
      cases texts with
      | nil => simp [string?, Option.bind_eq_some_iff]
      | cons first others => simp [string?, Option.bind_eq_some_iff, ih, and_comm]
    | _ => cases texts <;> simp [string?]

namespace RuleEntry

variable {kind : Kind}

theorem names?_eq_some {value : Toml} {texts : List String} :
    names? value = some texts ↔ value.Lists texts := by
  constructor
  · intro h
    cases value with
    | string text =>
      cases h
      exact .single text
    | array items =>
      obtain rfl := Toml.mapM_string?.1 h
      exact .several texts
    | _ => cases h
  · rintro (text | texts)
    · rfl
    · exact Toml.mapM_string?.2 rfl

theorem means_of_resolution? {value : Toml} {policy : Resolution}
    (h : resolution? value = some policy) :
    Means kind [("resolution", value)] (.resolution policy) := by
  cases value with
  | string text =>
    cases hname : Extreme.ofName? text with
    | some extreme =>
      obtain rfl := Extreme.ofName?_eq_some.1 hname
      simp only [resolution?, hname, Option.some.injEq] at h
      subst h
      exact .extremeWidth extreme
    | none =>
      simp only [resolution?, hname, Option.map_eq_some_iff] at h
      obtain ⟨width, hread, rfl⟩ := h
      obtain ⟨hwrites, hwidth⟩ := Text.unsigned?_eq_some.1 hread
      exact .writtenWidth hwrites hwidth
  | integer n =>
    simp only [resolution?, Bool.and_eq_true, decide_eq_true_eq, Option.ite_none_right_eq_some,
      Option.some.injEq] at h
    obtain ⟨⟨hnonneg, hlt⟩, rfl⟩ := h
    obtain ⟨width, rfl⟩ := Int.eq_ofNat_of_zero_le hnonneg
    exact .width (by exact_mod_cast hlt)
  | _ => cases h

/-- A width that is written out is read as such: the name of an extreme is no number. -/
theorem resolution?_of_writes {text : String} {width : Nat}
    (hwrites : Text.Writes (Text.trim text.toList) width) (hwidth : width < twoTo 32) :
    resolution? (.string text) = some (.exact width) := by
  have hread := Text.unsigned?_eq_some.2 ⟨hwrites, hwidth⟩
  cases hname : Extreme.ofName? text with
  | none => simp only [resolution?, hname, hread, Option.map_some]
  | some extreme =>
    obtain rfl := Extreme.ofName?_eq_some.1 hname
    have hnone : Text.unsigned? (twoTo 32) (Text.trim extreme.name.toList) = none := by
      cases extreme <;> decide
    rw [hread] at hnone
    cases hnone

/-- What is made of a table with one entry is what the table means. -/
theorem means_of_entryRule? {key : String} {value : Toml} {made : Rule}
    (h : entryRule? kind key value = some made) : Means kind [(key, value)] made := by
  unfold entryRule? at h
  split at h
  · obtain ⟨policy, hpolicy, rfl⟩ := Option.map_eq_some_iff.1 h
    exact means_of_resolution? hpolicy
  · obtain ⟨extreme, hextreme, rfl⟩ := Option.map_eq_some_iff.1 h
    obtain ⟨text, htext, hname⟩ := Option.bind_eq_some_iff.1 hextreme
    obtain rfl := Extreme.ofName?_eq_some.1 hname
    cases value <;> cases htext
    exact .duration extreme
  · obtain ⟨tags, htags, rfl⟩ := Option.map_eq_some_iff.1 h
    exact .language (names?_eq_some.1 htags)
  · obtain ⟨codecs, hcodecs, rfl⟩ := Option.map_eq_some_iff.1 h
    exact .codec (names?_eq_some.1 hcodecs)
  · split at h
    · cases h
      exact .foreign rfl
    · cases h
  · cases h

theorem rule_of_entryRule? {key : String} {value : Toml} {made : Rule}
    (h : entryRule? kind key value = some made) : rule kind [(key, value)] = .ok made := by
  simp only [rule, h]

theorem rule_of_resolution? {value : Toml} {policy : Resolution}
    (h : resolution? value = some policy) :
    rule kind [("resolution", value)] = .ok (.resolution policy) :=
  rule_of_entryRule? (Option.map_eq_some_iff.2 ⟨policy, h, rfl⟩)

theorem rule_of_means {entry : RuleEntry} {made : Rule} (h : Means kind entry made) :
    rule kind entry = .ok made := by
  cases h with
  | extremeWidth extreme => cases extreme <;> rfl
  | writtenWidth hwrites hwidth => exact rule_of_resolution? (resolution?_of_writes hwrites hwidth)
  | @width width hwidth =>
    have hlt : (width : Int) < twoTo 32 := by exact_mod_cast hwidth
    have hpolicy : resolution? (.integer width) = some (.exact width) := by
      simp only [resolution?, hlt, Int.natCast_nonneg, decide_true, Bool.and_self, if_true,
        Int.toNat_natCast]
    exact rule_of_resolution? hpolicy
  | duration extreme => cases extreme <;> rfl
  | language hlists =>
    exact rule_of_entryRule? (Option.map_eq_some_iff.2 ⟨_, names?_eq_some.2 hlists, rfl⟩)
  | codec hlists =>
    exact rule_of_entryRule? (Option.map_eq_some_iff.2 ⟨_, names?_eq_some.2 hlists, rfl⟩)
  | foreign hkind =>
    subst hkind
    rfl

/-- **A table is made into the rule that it means**, and into none if it means none. -/
theorem rule_ok_iff {entry : RuleEntry} {made : Rule} :
    rule kind entry = .ok made ↔ Means kind entry made := by
  refine ⟨fun h => ?_, rule_of_means⟩
  unfold rule at h
  split at h
  · next key value =>
    split at h
    · next found hfound =>
      cases h
      exact means_of_entryRule? hfound
    · cases h
  · cases h

/-- A table means no more than one rule. -/
theorem Means.unique {entry : RuleEntry} {one other : Rule} (hone : Means kind entry one)
    (hother : Means kind entry other) : one = other :=
  Except.ok.inj ((rule_of_means hone).symm.trans (rule_of_means hother))

/-- A table that means no rule is complained of. -/
theorem rule_of_not_isRule {entry : RuleEntry} (h : ¬ entry.IsRule kind) :
    rule kind entry = .error (.invalidRule kind.name entry.complaint) := by
  cases hrule : rule kind entry with
  | ok made => exact absurd ⟨made, rule_ok_iff.1 hrule⟩ h
  | error fault =>
    unfold rule at hrule
    split at hrule
    · next key value =>
      split at hrule <;> cases hrule
      rfl
    · next hentry =>
      cases hrule
      unfold complaint
      split
      · exact absurd rfl (hentry _ _)
      · rfl

end RuleEntry

/-! ## The first table without a meaning -/

/-- Tables of rules, each with the kind of track that its rule is to be for. -/
abbrev RuleEntries := List (Kind × RuleEntry)

namespace RuleEntries

/-- Every table stands for a rule. -/
def AllRules (entries : RuleEntries) : Prop := ∀ entry ∈ entries, entry.2.IsRule entry.1

/-- The first table that stands for no rule. -/
def FirstUnfit (entries : RuleEntries) (entry : Kind × RuleEntry) : Prop :=
  ∃ before after, entries = before ++ entry :: after ∧ AllRules before ∧ ¬ entry.2.IsRule entry.1

variable {entries more : RuleEntries} {entry : Kind × RuleEntry}

theorem allRules_append : AllRules (entries ++ more) ↔ entries.AllRules ∧ more.AllRules := by
  simp only [AllRules, List.mem_append, or_imp, forall_and]

theorem FirstUnfit.not_allRules (h : entries.FirstUnfit entry) : ¬ entries.AllRules := by
  obtain ⟨before, after, rfl, -, hunfit⟩ := h
  exact fun hall => hunfit (hall entry (by simp))

/-- What comes behind the first unfit table does not matter. -/
theorem FirstUnfit.append_right (h : entries.FirstUnfit entry) (more : RuleEntries) :
    FirstUnfit (entries ++ more) entry := by
  obtain ⟨before, after, rfl, hbefore, hunfit⟩ := h
  exact ⟨before, after ++ more, by simp, hbefore, hunfit⟩

/-- Neither do rules in front of it. -/
theorem FirstUnfit.append_left (h : more.FirstUnfit entry) (hentries : entries.AllRules) :
    FirstUnfit (entries ++ more) entry := by
  obtain ⟨before, after, rfl, hbefore, hunfit⟩ := h
  exact ⟨entries ++ before, after, by simp, allRules_append.2 ⟨hentries, hbefore⟩, hunfit⟩

/-- Tables that each mean some rule stand for rules. -/
theorem allRules_of_means {kind : Kind} {tables : List RuleEntry} {rules : List Rule}
    (h : List.Forall₂ (RuleEntry.Means kind) tables rules) : AllRules (tables.map (kind, ·)) := by
  induction h with
  | nil => simp [AllRules]
  | cons hmeans _ ih =>
    intro entry hentry
    rcases List.mem_cons.1 hentry with rfl | hrest
    · exact ⟨_, hmeans⟩
    · exact ih entry hrest

end RuleEntries

open RuleEntries

/-! ## Chains and rule-sets -/

/-- The tables of a chain are made into the rules that they mean, up to the first one that means
none. -/
theorem RuleEntry.mapM_rule (kind : Kind) (tables : List RuleEntry) :
    (∃ rules, tables.mapM (rule kind) = .ok rules ∧ List.Forall₂ (Means kind) tables rules) ∨
      ∃ entry, FirstUnfit (tables.map (kind, ·)) entry ∧
        tables.mapM (rule kind) = .error (.invalidRule entry.1.name entry.2.complaint) := by
  induction tables with
  | nil => exact .inl ⟨[], rfl, .nil⟩
  | cons table rest ih =>
    rw [List.mapM_cons]
    by_cases htable : table.IsRule kind
    · obtain ⟨made, hmeans⟩ := htable
      rw [rule_ok_iff.2 hmeans]
      rcases ih with ⟨rules, hrules, hmeaning⟩ | ⟨entry, hunfit, hrest⟩
      · rw [hrules]
        exact .inl ⟨made :: rules, rfl, .cons hmeans hmeaning⟩
      · rw [hrest]
        have hfirst : AllRules [(kind, table)] := allRules_of_means (.cons hmeans .nil)
        exact .inr ⟨entry, hunfit.append_left hfirst, rfl⟩
    · rw [rule_of_not_isRule htable]
      exact .inr ⟨(kind, table), ⟨[], _, rfl, by simp [AllRules], htable⟩, rfl⟩

/-- A rule-set of a file, at a position counted from zero, says what a rule-set is. -/
def RuleSetEntry.Says (entry : RuleSetEntry × Nat) (set : RuleSet) : Prop :=
  set.name = entry.1.name.getD s!"rule-set {entry.2 + 1}" ∧
    List.Forall₂ (RuleEntry.Means .subtitle) entry.1.rules set.rules

/-- The tables of rule-sets. -/
def RuleSetEntry.ruleEntries (sets : List RuleSetEntry) : RuleEntries :=
  sets.flatMap fun set => set.rules.map (.subtitle, ·)

/-- Rule-sets are made as their entries say, up to the first table that means no rule. -/
theorem RuleSetEntry.mapM_ruleSet (sets : List RuleSetEntry) (position : Nat) :
    (∃ made, ((sets.zipIdx position).mapM fun (set, i) => set.ruleSet (i + 1)) = .ok made ∧
        List.Forall₂ Says (sets.zipIdx position) made) ∨
      ∃ entry, FirstUnfit (ruleEntries sets) entry ∧
        ((sets.zipIdx position).mapM fun (set, i) => set.ruleSet (i + 1)) =
          .error (.invalidRule entry.1.name entry.2.complaint) := by
  induction sets generalizing position with
  | nil => exact .inl ⟨[], rfl, .nil⟩
  | cons set rest ih =>
    have hentries : ruleEntries (set :: rest) =
        set.rules.map (.subtitle, ·) ++ ruleEntries rest := rfl
    rw [List.zipIdx_cons, List.mapM_cons, hentries]
    dsimp only
    rcases RuleEntry.mapM_rule .subtitle set.rules with
      ⟨rules, hrules, hmeaning⟩ | ⟨entry, hunfit, hrules⟩
    · have hset : set.ruleSet (position + 1) =
          .ok ⟨set.name.getD s!"rule-set {position + 1}", rules⟩ := by
        simp only [ruleSet, hrules, Except.map]
      rw [hset]
      rcases ih (position + 1) with ⟨made, hmade, hsays⟩ | ⟨entry, hunfit, hmade⟩
      · rw [hmade]
        exact .inl ⟨_ :: made, rfl, .cons ⟨rfl, hmeaning⟩ hsays⟩
      · rw [hmade]
        exact .inr ⟨entry, hunfit.append_left (allRules_of_means hmeaning), rfl⟩
    · have hset : set.ruleSet (position + 1) =
          .error (.invalidRule entry.1.name entry.2.complaint) := by
        simp only [ruleSet, hrules, Except.map]
      rw [hset]
      exact .inr ⟨entry, hunfit.append_right _, rfl⟩

/-- Rule-sets that say something have no tables but rules. -/
theorem RuleSetEntry.allRules_of_says {sets : List RuleSetEntry} {position : Nat}
    {made : List RuleSet} (h : List.Forall₂ Says (sets.zipIdx position) made) :
    (ruleEntries sets).AllRules := by
  induction sets generalizing position made with
  | nil => simp [ruleEntries, AllRules]
  | cons set rest ih =>
    rw [List.zipIdx_cons] at h
    cases h with
    | cons hset hrest => exact allRules_append.2 ⟨allRules_of_means hset.2, ih hrest⟩

/-- The chain for one kind of track is made like its tables. -/
theorem Chain.ofEntries_cases (kind : Kind) (tables : List RuleEntry) :
    (∃ rules, ofEntries kind tables = .ok ⟨kind, rules⟩ ∧
        List.Forall₂ (RuleEntry.Means kind) tables rules) ∨
      ∃ entry, FirstUnfit (tables.map (kind, ·)) entry ∧
        ofEntries kind tables = .error (.invalidRule entry.1.name entry.2.complaint) := by
  unfold ofEntries
  rcases RuleEntry.mapM_rule kind tables with ⟨rules, hrules, hmeaning⟩ | ⟨entry, hunfit, hrules⟩
  · rw [hrules]
    exact .inl ⟨rules, rfl, hmeaning⟩
  · rw [hrules]
    exact .inr ⟨entry, hunfit, rfl⟩

/-! ## The whole file -/

namespace SettingsFile

/-- The tables of all rules of a file, in the order in which they are looked at. -/
def ruleEntries (file : SettingsFile) : RuleEntries :=
  RuleSetEntry.ruleEntries file.selection.subtitle ++
    file.selection.video.map (.video, ·) ++ file.selection.audio.map (.audio, ·)

/-- A file that settings can be made of. -/
structure IsWellFormed (file : SettingsFile) : Prop where
  batchSize : file.selection.batchSize ≠ some 0
  rules : file.ruleEntries.AllRules
  format : ∀ logging, file.logging = some logging →
    logging.format ∈ [none, some "pretty", some "json"]

/-- A file gives the rules of settings: a rule for every table, in the order of the file, and a
rule-set for every rule-set. -/
structure Says (file : SettingsFile) (settings : Settings) : Prop where
  video_kind : settings.video.kind = .video
  video : List.Forall₂ (RuleEntry.Means .video) file.selection.video settings.video.rules
  audio_kind : settings.audio.kind = .audio
  audio : List.Forall₂ (RuleEntry.Means .audio) file.selection.audio settings.audio.rules
  subtitle : List.Forall₂ RuleSetEntry.Says file.selection.subtitle.zipIdx settings.subtitle

/-- Only a batch size of zero is refused; the default is not zero. -/
theorem batchSize_eq_zero {file : SettingsFile} :
    file.selection.batchSize.getD Settings.default.batchSize = 0 ↔
      file.selection.batchSize = some 0 := by
  cases file.selection.batchSize <;> simp [Settings.default]

/-- The form of log output is known if it is one of the two, or is left out. -/
theorem logFormat_cases (logging : LoggingSection) :
    (logging.format ∈ [none, some "pretty", some "json"] ∧ ∃ form, logging.logFormat = .ok form) ∨
      ∃ name, logging.format = some name ∧ some name ∉ [none, some "pretty", some "json"] ∧
        logging.logFormat = .error (.settings ("unknown logging format '" ++ name ++ "'")) := by
  unfold LoggingSection.logFormat
  cases hformat : logging.format with
  | none => exact .inl ⟨by simp, _, rfl⟩
  | some name =>
    simp only
    split
    · next form hname =>
      refine .inl ⟨?_, form, rfl⟩
      unfold LogFormat.ofName? at hname
      split at hname
      · simp
      · simp
      · cases hname
    · next hname =>
      refine .inr ⟨name, rfl, fun hmem => ?_, rfl⟩
      -- both names would have been found
      simp only [List.mem_cons, reduceCtorEq, Option.some.injEq, List.not_mem_nil, or_false,
        false_or] at hmem
      rcases hmem with rfl | rfl <;> cases hname

/-- What becomes of a file: one of four things, looked for in this order. -/
theorem settings_cases (file : SettingsFile) :
    (file.selection.batchSize = some 0 ∧
      file.settings = .error (.settings "selection.foreign_batch_size must be at least 1")) ∨
    (file.selection.batchSize ≠ some 0 ∧ ∃ entry, file.ruleEntries.FirstUnfit entry ∧
      file.settings = .error (.invalidRule entry.1.name entry.2.complaint)) ∨
    (file.selection.batchSize ≠ some 0 ∧ file.ruleEntries.AllRules ∧
      ∃ logging name, file.logging = some logging ∧ logging.format = some name ∧
        some name ∉ [none, some "pretty", some "json"] ∧
        file.settings = .error (.settings ("unknown logging format '" ++ name ++ "'"))) ∨
    (file.IsWellFormed ∧ ∃ settings, file.settings = .ok settings ∧ file.Says settings) := by
  by_cases hzero : file.selection.batchSize = some 0
  · refine .inl ⟨hzero, ?_⟩
    unfold settings
    simp only [batchSize_eq_zero.2 hzero, if_true]
    rfl
  · have hbatch := mt batchSize_eq_zero.1 hzero
    refine .inr ?_
    unfold settings
    simp only [hbatch, if_false]
    -- each of the three lists either has the first unfit table or is left behind for the next
    rcases RuleSetEntry.mapM_ruleSet file.selection.subtitle 0 with
      ⟨sets, hsets, hsays⟩ | ⟨entry, hunfit, hsets⟩
    swap
    · refine .inl ⟨hzero, entry, (hunfit.append_right _).append_right _, ?_⟩
      simp only [hsets]
      rfl
    have hsubtitle := RuleSetEntry.allRules_of_says hsays
    rcases Chain.ofEntries_cases .video file.selection.video with
      ⟨video, hvideo, hvideoMeaning⟩ | ⟨entry, hunfit, hvideo⟩
    swap
    · refine .inl ⟨hzero, entry, (hunfit.append_left hsubtitle).append_right _, ?_⟩
      simp only [hsets, hvideo]
      rfl
    have hfront := allRules_append.2 ⟨hsubtitle, allRules_of_means hvideoMeaning⟩
    rcases Chain.ofEntries_cases .audio file.selection.audio with
      ⟨audio, haudio, haudioMeaning⟩ | ⟨entry, hunfit, haudio⟩
    swap
    · refine .inl ⟨hzero, entry, hunfit.append_left hfront, ?_⟩
      simp only [hsets, hvideo, haudio]
      rfl
    have hall : file.ruleEntries.AllRules :=
      allRules_append.2 ⟨hfront, allRules_of_means haudioMeaning⟩
    refine .inr ?_
    cases hlogging : file.logging with
    | none =>
      refine .inr ⟨⟨hzero, hall, by simp [hlogging]⟩, ?_⟩
      simp only [hsets, hvideo, haudio]
      exact ⟨_, rfl, ⟨rfl, hvideoMeaning, rfl, haudioMeaning, hsays⟩⟩
    | some logging =>
      rcases logFormat_cases logging with ⟨hknown, form, hform⟩ | ⟨name, hname, hunknown, hform⟩
      · refine .inr ⟨⟨hzero, hall, ?_⟩, ?_⟩
        · intro found hfound
          rw [hlogging, Option.some.injEq] at hfound
          exact hfound ▸ hknown
        · simp only [hsets, hvideo, haudio, hform]
          exact ⟨_, rfl, ⟨rfl, hvideoMeaning, rfl, haudioMeaning, hsays⟩⟩
      · refine .inl ⟨hzero, hall, logging, name, rfl, hname, hunknown, ?_⟩
        simp only [hsets, hvideo, haudio, hform]
        rfl

/-- **Settings are made of well-formed files only, and say what the rules of the file mean.** If
the batch size is fit but the rules are not, they fail for the first table that is no rule. -/
theorem settings_meaning (file : SettingsFile) :
    ((∃ settings, file.settings = .ok settings) ↔ file.IsWellFormed) ∧
    (∀ settings, file.settings = .ok settings → file.Says settings) ∧
    (file.selection.batchSize ≠ some 0 → ¬ file.ruleEntries.AllRules →
      ∃ entry, file.ruleEntries.FirstUnfit entry ∧
        file.settings = .error (.invalidRule entry.1.name entry.2.complaint)) := by
  rcases settings_cases file with ⟨hzero, herror⟩ | ⟨hbatch, entry, hunfit, herror⟩ |
    ⟨hbatch, hall, logging, name, hlogging, hname, hunknown, herror⟩ | ⟨hwell, settings, hok, hsays⟩
  · refine ⟨⟨fun ⟨settings, h⟩ => ?_, fun hwell => absurd hzero hwell.batchSize⟩,
      fun settings h => ?_, fun hbatch => absurd hzero hbatch⟩
    all_goals cases herror.symm.trans h
  · refine ⟨⟨fun ⟨settings, h⟩ => ?_, fun hwell => absurd hwell.rules hunfit.not_allRules⟩,
      fun settings h => ?_, fun _ _ => ⟨entry, hunfit, herror⟩⟩
    all_goals cases herror.symm.trans h
  · refine ⟨⟨fun ⟨settings, h⟩ => ?_, fun hwell => ?_⟩, fun settings h => ?_,
      fun _ hnot => absurd hall hnot⟩
    · cases herror.symm.trans h
    · exact absurd (hname ▸ hwell.format logging hlogging) hunknown
    · cases herror.symm.trans h
  · refine ⟨⟨fun _ => hwell, fun _ => ⟨settings, hok⟩⟩, fun settings' h => ?_,
      fun _ hnot => absurd hwell.rules hnot⟩
    cases hok.symm.trans h
    exact hsays

/-- A file with a written width, and a rule-set without a name. -/
def terse : SettingsFile where
  selection :=
    { imageCodecs := none
      batchSize := none
      video := [[("resolution", .string " +720 ")]]
      audio := []
      subtitle := [⟨none, [[("language", .string "eng")], [("foreign", .boolean true)]]⟩] }
  tools := none
  captions := none
  output := none
  logging := some ⟨"info", some "json"⟩

/-- It is well-formed, and so there are settings that say the same. -/
theorem settings_meaning_terse :
    terse.IsWellFormed ∧ ∃ settings, terse.settings = .ok settings ∧ terse.Says settings ∧
      settings.video = ⟨.video, [.resolution (.exact 720)]⟩ ∧
      settings.subtitle = [⟨"rule-set 1", [.language ["eng"], .foreignAudio]⟩] := by
  have hread : Text.unsigned? (twoTo 32) (Text.trim " +720 ".toList) = some 720 := by decide
  obtain ⟨hwidth, -⟩ := Text.unsigned?_eq_some.1 hread
  have hwell : terse.IsWellFormed := by
    refine ⟨by simp [terse], fun entry hentry => ?_, by simp [terse]⟩
    have hcases : entry = (.subtitle, [("language", .string "eng")]) ∨
        entry = (.subtitle, [("foreign", .boolean true)]) ∨
        entry = (.video, [("resolution", .string " +720 ")]) := by
      simpa [ruleEntries, RuleSetEntry.ruleEntries, terse] using hentry
    rcases hcases with rfl | rfl | rfl
    · exact ⟨_, .language (.single "eng")⟩
    · exact ⟨_, .foreign rfl⟩
    · exact ⟨_, .writtenWidth hwidth (by decide)⟩
  obtain ⟨settings, hsettings⟩ := (settings_meaning terse).1.2 hwell
  refine ⟨hwell, settings, hsettings, (settings_meaning terse).2.1 settings hsettings, ?_⟩
  cases hsettings
  exact ⟨rfl, rfl⟩

end SettingsFile

end TrackSelect
