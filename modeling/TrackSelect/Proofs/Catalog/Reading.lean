import TrackSelect.ProbeReport
import TrackSelect.Proofs.Json.Numbers
import TrackSelect.Proofs.Keyed

/-!
# Reports that are read

What holds of all numbers of a JSON text holds of those that a report takes from it. The tags of its
records are the values of members somewhere in the text, so the whole numbers among them have 64
bits (`ProbeReport.isSized_of_read`).
-/

namespace TrackSelect

open Json

/-- The whole numbers among the tags have 64 bits. -/
def StreamRecord.IsSized (record : StreamRecord) : Prop :=
  ∀ tag ∈ record.tags, ∀ n, tag.2 = .number (.natural n) → n < twoTo 64

namespace ProbeReport

/-- What some list was made into was made of its elements. -/
theorem exists_of_mem_mapM {α β : Type} {f : α → Option β} {source : List α} :
    ∀ {made : List β}, source.mapM f = some made → ∀ b ∈ made, ∃ a ∈ source, f a = some b := by
  induction source with
  | nil =>
    intro made h b hb
    cases h
    cases hb
  | cons a rest ih =>
    intro made h b hb
    rw [List.mapM_cons] at h
    obtain ⟨first, hfirst, h⟩ := Option.bind_eq_some_iff.1 h
    obtain ⟨others, hothers, h⟩ := Option.bind_eq_some_iff.1 h
    cases h
    rcases List.mem_cons.1 hb with rfl | hb
    · exact ⟨a, List.mem_cons_self, hfirst⟩
    · obtain ⟨source, hsource, hmade⟩ := ih hothers b hb
      exact ⟨source, List.mem_cons_of_mem a hsource, hmade⟩

/-- The members that are known are members. -/
theorem mem_of_membersOf? {known : List String} {fields : List (Option String × Literal)}
    {parts : List (Option Literal)} (h : membersOf? known fields = some parts) {item : Literal}
    (hitem : some item ∈ parts) : ∃ key, (key, item) ∈ fields := by
  unfold membersOf? at h
  obtain ⟨pairs, hpairs, h⟩ := Option.bind_eq_some_iff.1 h
  obtain ⟨-, h⟩ := Option.ite_none_right_eq_some.1 h
  cases h
  obtain ⟨name, -, hlookup⟩ := List.mem_map.1 hitem
  obtain ⟨before, behind, rfl, -⟩ := List.lookup_eq_some_iff.1 hlookup
  obtain ⟨⟨key, value⟩, hmem, hfield⟩ :=
    exists_of_mem_mapM hpairs (name, item) (List.mem_append_right _ List.mem_cons_self)
  obtain ⟨_, -, hsame⟩ := Option.map_eq_some_iff.1 hfield
  cases hsame
  exact ⟨key, hmem⟩

theorem isSized_of_parts? {known : List String} {least : Nat} {literal : Literal}
    (hsized : literal.IsSized) {parts : List (Option Literal)}
    (h : parts? known least literal = some parts) {item : Literal} (hitem : some item ∈ parts) :
    item.IsSized := by
  unfold parts? at h
  split at h
  · cases hsized with
    | object hfields =>
      obtain ⟨key, hmem⟩ := mem_of_membersOf? h hitem
      exact hfields _ hmem
  · cases hsized with
    | array hitems =>
      obtain ⟨-, h⟩ := Option.ite_none_right_eq_some.1 h
      cases h
      rw [List.rightpad, List.mem_append] at hitem
      rcases hitem with hitem | hitem
      · obtain ⟨other, hother, hsame⟩ := List.mem_map.1 hitem
        cases hsame
        exact hitems _ hother
      · cases (List.mem_replicate.1 hitem).2
  · cases h

/-- Only a number has a number for its value. -/
theorem eq_number_of_value? {levels : Nat} {item : Literal} {x : Json.Number}
    (h : item.value? levels = some (.number x)) : item = .number (some x) := by
  cases item with
  | null => cases h
  | bool => cases h
  | number n =>
    rw [Literal.value?] at h
    obtain ⟨y, rfl, hsame⟩ := Option.map_eq_some_iff.1 h
    cases hsame
    rfl
  | string => simp [Literal.value?] at h
  | array => cases levels <;> simp [Literal.value?] at h
  | object => cases levels <;> simp [Literal.value?] at h

theorem exists_value?_of_memberValues? {levels : Nat} {fields : List (Option String × Literal)}
    {pairs : List (String × Json)} (h : Literal.memberValues? levels fields = some pairs)
    {pair : String × Json} (hpair : pair ∈ pairs) :
    ∃ field ∈ fields, field.2.value? levels = some pair.2 := by
  induction fields generalizing pairs with
  | nil =>
    cases h
    cases hpair
  | cons field fields ih =>
    obtain ⟨key, item⟩ := field
    rw [Literal.memberValues?] at h
    obtain ⟨key, -, h⟩ := Option.bind_eq_some_iff.1 h
    obtain ⟨value, hvalue, h⟩ := Option.bind_eq_some_iff.1 h
    obtain ⟨rest, hrest, h⟩ := Option.bind_eq_some_iff.1 h
    cases h
    rcases List.mem_cons.1 hpair with rfl | hpair
    · exact ⟨_, List.mem_cons_self, hvalue⟩
    · obtain ⟨field, hfield, hvalue⟩ := ih hrest hpair
      exact ⟨field, List.mem_cons_of_mem _ hfield, hvalue⟩

/-- The tags of a record are sized. -/
theorem lt_of_tags? {levels : Nat} {part : Option Literal} {tags : List (String × Json)}
    (hsized : ∀ item ∈ part, item.IsSized) (h : tags? levels part = some tags) :
    ∀ tag ∈ tags, ∀ n, tag.2 = .number (.natural n) → n < twoTo 64 := by
  intro tag htag n hn
  unfold tags? at h
  split at h
  · cases h
    cases htag
  · next fields =>
    obtain ⟨pairs, hpairs, rfl⟩ := Option.map_eq_some_iff.1 h
    obtain ⟨field, hfield, hvalue⟩ :=
      exists_value?_of_memberValues? hpairs (Keyed.mem_of_mem_ofList htag)
    have hobject : (Literal.object fields).IsSized := hsized _ rfl
    cases hobject with
    | object hfields =>
      have hfieldSized := hfields field hfield
      rw [hn] at hvalue
      rw [eq_number_of_value? hvalue] at hfieldSized
      cases hfieldSized with
      | number hnumber => exact hnumber _ rfl
  · cases h

theorem isSized_of_record? {item : Literal} (hsized : item.IsSized) {record : StreamRecord}
    (h : record? item = some record) : record.IsSized := by
  unfold record? at h
  obtain ⟨parts, hparts, h⟩ := Option.bind_eq_some_iff.1 h
  split at h
  · next index codecType codec width duration part =>
    obtain ⟨_, -, h⟩ := Option.bind_eq_some_iff.1 h
    obtain ⟨_, -, h⟩ := Option.bind_eq_some_iff.1 h
    obtain ⟨_, -, h⟩ := Option.bind_eq_some_iff.1 h
    obtain ⟨_, -, h⟩ := Option.bind_eq_some_iff.1 h
    obtain ⟨_, -, h⟩ := Option.bind_eq_some_iff.1 h
    obtain ⟨tags, htags, h⟩ := Option.bind_eq_some_iff.1 h
    cases h
    refine lt_of_tags? (fun item hitem => ?_) htags
    exact isSized_of_parts? hsized hparts (by simp [Option.mem_def.1 hitem])
  · cases h

theorem isSized_of_records? {item : Literal} (hsized : item.IsSized) {records : List StreamRecord}
    (h : records? item = some records) : ∀ record ∈ records, record.IsSized := by
  intro record hrecord
  unfold records? at h
  split at h
  · obtain ⟨item, hitem, hread⟩ := exists_of_mem_mapM h record hrecord
    cases hsized with
    | array hitems => exact isSized_of_record? (hitems item hitem) hread
  · cases h

/-- **The records of a report that was read are sized.** -/
theorem isSized_of_read {text : String} {report : ProbeReport} (h : read text = .ok report)
    {records : List StreamRecord} (hstreams : report.streams = some records) :
    ∀ record ∈ records, record.IsSized := by
  unfold read at h
  split at h
  · next other hother =>
    cases h
    obtain ⟨literal, hliteral, hread⟩ := Option.bind_eq_some_iff.1 hother
    have hsized := Literal.isSized_of_read? hliteral
    unfold ofLiteral? at hread
    obtain ⟨parts, hparts, hread⟩ := Option.bind_eq_some_iff.1 hread
    split at hread
    · next streams format =>
      obtain ⟨_, -, hread⟩ := Option.bind_eq_some_iff.1 hread
      obtain ⟨list, hlist, hread⟩ := Option.bind_eq_some_iff.1 hread
      cases hread
      cases hstreams
      unfold optional? at hlist
      split at hlist
      · cases hlist
      · cases hlist
      · next item _ =>
        obtain ⟨made, hmade, hsame⟩ := Option.map_eq_some_iff.1 hlist
        cases hsame
        exact isSized_of_records? (isSized_of_parts? hsized hparts List.mem_cons_self) hmade
    · cases hread
  · cases h

end ProbeReport

end TrackSelect
