import Mathlib.Data.Option.Basic
import TrackSelect.Proofs.Toml.Rereading
import TrackSelect.SettingsFile.Record
import TrackSelect.SettingsFile.Writing

/-!
# Records that are written

A record is written as a table of the fields that are set (`Toml.setFields`). When the table is read
again, each of its fields is found by its name, whatever has become of their order, and a field that
was not set is still missing (`Toml.field?_of_rereads`). What is read of a record is made of what is
read of its fields, so that `Toml.Returns` is shown for every kind of field here.
-/

namespace TrackSelect

namespace Toml

/-- Something that is written is read again, in whatever order the entries of its tables are. -/
def Returns {α : Type} (read? : Toml → Option α) (written : Toml) (a : α) : Prop :=
  ∀ read, Rereads written read → read? read = some a

/-- The order of entries with distinct keys does not matter to a key. -/
theorem lookup_perm {entries others : List (String × Toml)} (h : entries.Perm others)
    (hdistinct : (entries.map Prod.fst).Nodup) (name : String) :
    entries.lookup name = others.lookup name := by
  induction h with
  | nil => rfl
  | cons entry _ ih =>
    rw [List.lookup_cons, List.lookup_cons, ih (List.nodup_cons.1 hdistinct).2]
  | swap first second rest =>
    obtain ⟨key₁, value₁⟩ := first
    obtain ⟨key₂, value₂⟩ := second
    have hne : key₂ ≠ key₁ := by
      simp only [List.map_cons, List.nodup_cons, List.mem_cons, not_or] at hdistinct
      exact hdistinct.1.1
    change Keyed.get? name _ = Keyed.get? name _
    simp only [Keyed.get?_cons]
    grind
  | trans hfirst _ ih₁ ih₂ =>
    exact (ih₁ hdistinct).trans (ih₂ ((hfirst.map Prod.fst).nodup_iff.1 hdistinct))

/-- The entries of the fields that are set. -/
def setFields (fields : List (String × Option Toml)) : List (String × Toml) :=
  fields.flatMap fun field => setField field.1 id field.2

theorem setFields_nil : setFields [] = [] := rfl

theorem setFields_cons (name : String) (set : Option Toml) (rest : List (String × Option Toml)) :
    setFields ((name, set) :: rest) = setField name id set ++ setFields rest := rfl

theorem setField_some {α : Type} (name : String) (write : α → Toml) (a : α) :
    setField name write (some a) = [(name, write a)] := rfl

theorem setField_map {α : Type} (name : String) (write : α → Toml) (set : Option α) :
    setField name id (set.map write) = setField name write set := by
  cases set <;> rfl

theorem mem_keys_setFields {fields : List (String × Option Toml)} {name : String}
    (h : name ∈ (setFields fields).map Prod.fst) : name ∈ fields.map Prod.fst := by
  obtain ⟨entry, hentry, rfl⟩ := List.mem_map.1 h
  obtain ⟨⟨name, set⟩, hfield, hset⟩ := List.mem_flatMap.1 hentry
  cases set with
  | none => cases hset
  | some value =>
    obtain rfl := List.mem_singleton.1 hset
    exact List.mem_map_of_mem hfield

theorem keys_setFields_nodup {fields : List (String × Option Toml)}
    (h : (fields.map Prod.fst).Nodup) : ((setFields fields).map Prod.fst).Nodup := by
  induction fields with
  | nil => exact List.nodup_nil
  | cons field rest ih =>
    obtain ⟨name, set⟩ := field
    obtain ⟨hname, hrest⟩ := List.nodup_cons.1 h
    cases set with
    | none => exact ih hrest
    | some value =>
      exact List.nodup_cons.2 ⟨fun hmem => hname (mem_keys_setFields hmem), ih hrest⟩

theorem lookup_setField_append (key name : String) (set : Option Toml)
    (rest : List (String × Toml)) : (setField name id set ++ rest).lookup key =
      if key = name then set.or (rest.lookup key) else rest.lookup key := by
  cases set with
  | none => simp [setField]
  | some value => exact Keyed.get?_cons key name value rest

theorem lookup_setFields {fields : List (String × Option Toml)}
    (h : (fields.map Prod.fst).Nodup) {field : String × Option Toml} (hfield : field ∈ fields) :
    (setFields fields).lookup field.1 = field.2 := by
  induction fields with
  | nil => cases hfield
  | cons first rest ih =>
    obtain ⟨name, set⟩ := first
    obtain ⟨hname, hrest⟩ := List.nodup_cons.1 h
    rw [setFields_cons, lookup_setField_append]
    rcases List.mem_cons.1 hfield with rfl | hmem
    · have hnone : (setFields rest).lookup name = none := List.lookup_eq_none_iff.2
        fun entry hentry => bne_iff_ne.2 fun heq =>
          hname (mem_keys_setFields (heq ▸ List.mem_map_of_mem hentry))
      simp [hnone]
    · have hkey := List.mem_map_of_mem (f := Prod.fst) hmem
      have hne : field.1 ≠ name := fun heq => hname (heq ▸ hkey)
      rw [if_neg hne, ih hrest hmem]

/-- **The fields of a record are read again**, and those that are missing are missing again. -/
theorem field?_of_rereads {fields : List (String × Option Toml)} {read : Toml}
    (h : Rereads (table (setFields fields)) read) (hdistinct : (fields.map Prod.fst).Nodup)
    (place : Nat) (name : String) {written : Option Toml}
    (hplace : fields[place]? = some (name, written)) :
    Option.Rel Rereads written (read.field? place name) := by
  obtain ⟨between, others, rfl, hbetween, hperm⟩ := h
  have hkeys : (between.map Prod.fst).Nodup := hbetween.keys_eq ▸ keys_setFields_nodup hdistinct
  have hfield : (table others).field? place name = between.lookup name := by
    rw [lookup_perm hperm hkeys]
    rfl
  have hwritten : (setFields fields).lookup name = written :=
    lookup_setFields hdistinct (List.mem_of_getElem? hplace)
  rw [hfield, ← hwritten]
  exact hbetween.lookup name

theorem isRecord_of_rereads {entries : List (String × Toml)} {read : Toml}
    (h : Rereads (table entries) read) : read.isRecord = true := by
  obtain ⟨_, others, rfl, -, -⟩ := h
  rfl

variable {α : Type} {read? : Toml → Option α} {write : α → Toml}

theorem string?_returns (text : String) : Returns string? (string text) text := by
  rintro read rfl
  rfl

theorem natural?_returns {bound n : Nat} (h : n < bound) :
    Returns (natural? bound) (ofNatural n) n := by
  rintro read rfl
  simp [natural?, h]

theorem list?_returns {list : List α} (h : ∀ a ∈ list, Returns read? (write a) a) :
    Returns (list? read?) (array (list.map write)) list := by
  rintro read ⟨others, rfl, hothers⟩
  rw [list?]
  induction list generalizing others with
  | nil =>
    cases hothers
    rfl
  | cons a rest ih =>
    obtain ⟨ha, hrest⟩ := List.forall_mem_cons.1 h
    obtain ⟨first, others, rfl, hfirst, hothers⟩ := hothers
    rw [List.mapM_cons, ha first hfirst, ih hrest others hothers]
    rfl

theorem strings_returns (texts : List String) :
    Returns (list? string?) (ofStrings texts) texts :=
  list?_returns fun text _ => string?_returns text

theorem optional?_returns {field : Option Toml} {set : Option α}
    (h : ∀ a ∈ set, Returns read? (write a) a)
    (hfield : Option.Rel Rereads (set.map write) field) : optional? read? field = some set := by
  cases set with
  | none =>
    cases hfield
    rfl
  | some a =>
    cases hfield with
    | some hvalue =>
      rw [optional?, h a rfl _ hvalue]
      rfl

theorem listOrNone?_returns {field : Option Toml} {written : Toml} {list : List α}
    (h : Returns (list? read?) written list) (hfield : Option.Rel Rereads (some written) field) :
    listOrNone? read? field = some list := by
  cases hfield with
  | some hvalue => exact h _ hvalue

/-- A field that is always written. -/
theorem required_returns {field : Option Toml} {written : Toml} {a : α}
    (h : Returns read? written a) (hfield : Option.Rel Rereads (some written) field) :
    ∃ value, field = some value ∧ read? value = some a := by
  cases hfield with
  | some hvalue => exact ⟨_, rfl, h _ hvalue⟩

/-! ### What was read -/

theorem of_mem_list? {value : Toml} {list : List α} (h : list? read? value = some list) :
    ∀ a ∈ list, ∃ item, read? item = some a := by
  cases value with
  | array items =>
    rw [list?] at h
    induction items generalizing list with
    | nil =>
      cases h
      simp
    | cons item rest ih =>
      simp only [List.mapM_cons, Option.bind_eq_bind, Option.bind_eq_some_iff, Option.pure_def,
        Option.some.injEq] at h
      obtain ⟨first, hfirst, others, hothers, rfl⟩ := h
      exact List.forall_mem_cons.2 ⟨⟨item, hfirst⟩, ih hothers⟩
  | _ => cases h

theorem of_mem_listOrNone? {field : Option Toml} {list : List α}
    (h : listOrNone? read? field = some list) : ∀ a ∈ list, ∃ item, read? item = some a := by
  cases field with
  | none =>
    cases h
    simp
  | some value => exact of_mem_list? h

theorem of_mem_optional? {field : Option Toml} {set : Option α}
    (h : optional? read? field = some set) : ∀ a ∈ set, ∃ value, read? value = some a := by
  cases field with
  | none =>
    cases h
    simp
  | some value =>
    obtain ⟨a, ha, rfl⟩ := Option.map_eq_some_iff.1 h
    rintro _ ⟨⟩
    exact ⟨value, ha⟩

theorem lt_of_natural? {bound : Nat} {value : Toml} {n : Nat}
    (h : natural? bound value = some n) : n < bound := by
  cases value with
  | integer read =>
    simp only [natural?, Bool.and_eq_true, decide_eq_true_eq, Option.ite_none_right_eq_some,
      Option.some.injEq] at h
    omega
  | _ => cases h

/-- A number that was read is small enough to be read again. -/
theorem returns_of_optional_natural? {bound : Nat} {field : Option Toml} {set : Option Nat}
    (h : optional? (natural? bound) field = some set) :
    ∀ n ∈ set, Returns (natural? bound) (ofNatural n) n := fun n hn => by
  obtain ⟨value, hvalue⟩ := of_mem_optional? h n hn
  exact natural?_returns (lt_of_natural? hvalue)

end Toml

end TrackSelect
