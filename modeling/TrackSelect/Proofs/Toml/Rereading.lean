import Mathlib.Data.List.Forall2
import Mathlib.Data.List.Perm.Basic
import TrackSelect.Proofs.Keyed
import TrackSelect.Toml.Value

/-!
# Values that are read again

A value that has been written to a text is there again when the text is read, except that tables may
list their entries in another order, as those that have headers of their own are written last
(`Toml.Rereads`). For a value whose tables are sorted by key that makes no difference, since they are
sorted again (`Toml.isReadBack_of_allTables`); the one table that does not come back is one with the
key that marks a date-time.
-/

namespace TrackSelect

namespace Toml

/-! ## Equality -/

mutual

/-- Whether two values are the same, down to the order of the entries in tables. -/
def same : Toml → Toml → Bool
  | string text, string other => text == other
  | integer n, integer other => n == other
  | float x, float other => x == other
  | boolean b, boolean other => b == other
  | datetime d, datetime other => d == other
  | array items, array others => itemsSame items others
  | table entries, table others => entriesSame entries others
  | _, _ => false

def itemsSame : List Toml → List Toml → Bool
  | [], [] => true
  | item :: rest, other :: others => same item other && itemsSame rest others
  | _, _ => false

def entriesSame : List (String × Toml) → List (String × Toml) → Bool
  | [], [] => true
  | (key, value) :: rest, (other, second) :: others =>
    key == other && same value second && entriesSame rest others
  | _, _ => false

end

mutual

theorem same_iff : ∀ value other : Toml, same value other = true ↔ value = other
  | .string _, other | .integer _, other | .float _, other | .boolean _, other
  | .datetime _, other => by cases other <;> simp [same]
  | .array items, other => by cases other <;> simp [same, itemsSame_iff items]
  | .table entries, other => by cases other <;> simp [same, entriesSame_iff entries]

theorem itemsSame_iff : ∀ items others : List Toml, itemsSame items others = true ↔ items = others
  | [], others => by cases others <;> simp [itemsSame]
  | item :: rest, others => by
    cases others <;> simp [itemsSame, same_iff item, itemsSame_iff rest]

theorem entriesSame_iff : ∀ entries others : List (String × Toml),
    entriesSame entries others = true ↔ entries = others
  | [], others => by cases others <;> simp [entriesSame]
  | (key, value) :: rest, others => by
    cases others <;> simp [entriesSame, same_iff value, entriesSame_iff rest, Prod.ext_iff]

end

instance : DecidableEq Toml := fun value other => decidable_of_iff _ (same_iff value other)

/-! ## Reading again -/

mutual

/-- What a value may be when it is read again: the same, but for the order of the entries in its
tables. -/
def Rereads : Toml → Toml → Prop
  | string text, read => read = string text
  | integer n, read => read = integer n
  | float x, read => read = float x
  | boolean b, read => read = boolean b
  | datetime d, read => read = datetime d
  | array items, read => ∃ others, read = array others ∧ ItemsReread items others
  | table entries, read =>
    ∃ between others, read = table others ∧ EntriesReread entries between ∧ between.Perm others

def ItemsReread : List Toml → List Toml → Prop
  | [], read => read = []
  | item :: rest, read =>
    ∃ first others, read = first :: others ∧ Rereads item first ∧ ItemsReread rest others

def EntriesReread : List (String × Toml) → List (String × Toml) → Prop
  | [], read => read = []
  | (key, value) :: rest, read =>
    ∃ first others, read = (key, first) :: others ∧ Rereads value first ∧ EntriesReread rest others

end

theorem entriesReread_iff {entries : List (String × Toml)} : ∀ {read : List (String × Toml)},
    EntriesReread entries read ↔
      List.Forall₂ (fun entry again => again.1 = entry.1 ∧ Rereads entry.2 again.2) entries read := by
  induction entries with
  | nil => simp [EntriesReread]
  | cons entry rest ih =>
    obtain ⟨key, value⟩ := entry
    intro read
    constructor
    · rintro ⟨first, others, rfl, hfirst, hothers⟩
      exact .cons ⟨rfl, hfirst⟩ (ih.1 hothers)
    · rintro (_ | ⟨⟨rfl, hfirst⟩, hothers⟩)
      exact ⟨_, _, rfl, hfirst, ih.2 hothers⟩

mutual

/-- A value may be read just as it was written. -/
theorem rereads_self : ∀ value : Toml, Rereads value value
  | .string _ | .integer _ | .float _ | .boolean _ | .datetime _ => rfl
  | .array items => ⟨items, rfl, itemsReread_self items⟩
  | .table entries => ⟨entries, entries, rfl, entriesReread_self entries, List.Perm.refl entries⟩

theorem itemsReread_self : ∀ items : List Toml, ItemsReread items items
  | [] => rfl
  | item :: rest => ⟨item, rest, rfl, rereads_self item, itemsReread_self rest⟩

theorem entriesReread_self : ∀ entries : List (String × Toml), EntriesReread entries entries
  | [] => rfl
  | (_, value) :: rest => ⟨value, rest, rfl, rereads_self value, entriesReread_self rest⟩

end

/-- Entries that are read in another order are those of another order, read one by one. -/
theorem EntriesReread.perm {entries between others : List (String × Toml)}
    (h : EntriesReread entries between) (hperm : between.Perm others) :
    ∃ again, again.Perm entries ∧ EntriesReread again others := by
  have hcomp := List.forall₂_comp_perm_eq_perm_comp_forall₂ (r := fun entry again :
    String × Toml => again.1 = entry.1 ∧ Rereads entry.2 again.2)
  obtain ⟨again, hagain, hothers⟩ := (congrFun (congrFun hcomp entries) others).mp
    ⟨between, entriesReread_iff.1 h, hperm⟩
  exact ⟨again, hagain.symm, entriesReread_iff.2 hothers⟩

/-- The keys are the same. -/
theorem EntriesReread.keys_eq {entries : List (String × Toml)} :
    ∀ {read : List (String × Toml)}, EntriesReread entries read →
      read.map Prod.fst = entries.map Prod.fst := by
  induction entries with
  | nil =>
    rintro read rfl
    rfl
  | cons entry rest ih =>
    obtain ⟨key, value⟩ := entry
    rintro read ⟨first, others, rfl, -, hrest⟩
    rw [List.map_cons, List.map_cons, ih hrest]

/-- A key has a value again, or it has none again. -/
theorem EntriesReread.lookup {entries : List (String × Toml)} (name : String) :
    ∀ {read : List (String × Toml)}, EntriesReread entries read →
      Option.Rel Rereads (entries.lookup name) (read.lookup name) := by
  induction entries with
  | nil =>
    rintro read rfl
    exact .none
  | cons entry rest ih =>
    obtain ⟨key, value⟩ := entry
    rintro read ⟨first, others, rfl, hfirst, hrest⟩
    rw [List.lookup_cons, List.lookup_cons]
    cases name == key with
    | true => exact .some hfirst
    | false => exact ih hrest

/-! ## Values in order -/

section AllTables

variable (p : List (String × Toml) → Prop)

mutual

/-- Something holds of the entries of every table in a value. -/
def AllTables : Toml → Prop
  | array items => ItemsAllTables items
  | table entries => p entries ∧ EntriesAllTables entries
  | _ => True

def ItemsAllTables : List Toml → Prop
  | [] => True
  | item :: rest => AllTables item ∧ ItemsAllTables rest

def EntriesAllTables : List (String × Toml) → Prop
  | [] => True
  | (_, value) :: rest => AllTables value ∧ EntriesAllTables rest

end

variable {p}

theorem entriesAllTables_iff {entries : List (String × Toml)} :
    EntriesAllTables p entries ↔ ∀ entry ∈ entries, AllTables p entry.2 := by
  induction entries with
  | nil => simp [EntriesAllTables]
  | cons entry rest ih =>
    obtain ⟨key, value⟩ := entry
    rw [EntriesAllTables, List.forall_mem_cons, ih]

end AllTables

/-- A table is sorted by key, unless it is a date-time. -/
theorem byKey?_table_cases {entries : List (String × Toml)} {sorted : Toml}
    (h : byKey? (table entries) = some sorted) :
    (∃ d, sorted = datetime d) ∨
      ∃ again, entriesByKey? entries = some again ∧ sorted = table (Keyed.ofList again) := by
  have hsorted : (entriesByKey? entries).map (fun again => table (Keyed.ofList again)) =
      some sorted → ∃ again, entriesByKey? entries = some again ∧
        sorted = table (Keyed.ofList again) := fun hsome => by
    obtain ⟨again, hagain, rfl⟩ := Option.map_eq_some_iff.1 hsome
    exact ⟨again, hagain, rfl⟩
  unfold byKey? at h
  split at h
  · split_ifs at h
    · obtain ⟨d, -, rfl⟩ := Option.map_eq_some_iff.1 h
      exact Or.inl ⟨d, rfl⟩
    · exact Or.inr (hsorted h)
  · split_ifs at h
    exact Or.inr (hsorted h)
  · cases h
    exact Or.inr ⟨[], rfl, rfl⟩

/-- A value that comes back, in whatever order the entries of its tables are read. -/
def IsReadBack (value : Toml) : Prop := ∀ read, Rereads value read → byKey? read = some value

theorem itemsByKey?_of_reread {items : List Toml} (h : ∀ item ∈ items, item.IsReadBack) :
    ∀ {read : List Toml}, ItemsReread items read → itemsByKey? read = some items := by
  induction items with
  | nil =>
    rintro read rfl
    rfl
  | cons item rest ih =>
    obtain ⟨hitem, hrest⟩ := List.forall_mem_cons.1 h
    rintro read ⟨first, others, rfl, hfirst, hothers⟩
    rw [itemsByKey?, hitem first hfirst, ih hrest hothers]
    rfl

theorem entriesByKey?_of_reread {entries : List (String × Toml)}
    (h : ∀ entry ∈ entries, entry.2.IsReadBack) :
    ∀ {read : List (String × Toml)}, EntriesReread entries read →
      entriesByKey? read = some entries := by
  induction entries with
  | nil =>
    rintro read rfl
    rfl
  | cons entry rest ih =>
    obtain ⟨key, value⟩ := entry
    obtain ⟨hvalue, hrest⟩ := List.forall_mem_cons.1 h
    rintro read ⟨first, others, rfl, hfirst, hothers⟩
    rw [entriesByKey?, hvalue first hfirst, ih hrest hothers]
    rfl

/-- **Entries in order are found again**, in whatever order they are read. -/
theorem ofList_of_reread {entries between others : List (String × Toml)}
    (hordered : Keyed.Ascending entries) (hvalues : ∀ entry ∈ entries, entry.2.IsReadBack)
    (h : EntriesReread entries between) (hperm : between.Perm others) :
    (entriesByKey? others).map Keyed.ofList = some entries := by
  obtain ⟨again, hagain, hothers⟩ := h.perm hperm
  have hback : ∀ entry ∈ again, entry.2.IsReadBack := fun entry hentry =>
    hvalues entry (hagain.mem_iff.1 hentry)
  rw [entriesByKey?_of_reread hback hothers, Option.map_some,
    Keyed.ofList_eq_of_perm hordered hagain]

mutual

/-- What is sorted by key is in order. -/
theorem allTables_of_byKey? : ∀ {value sorted : Toml}, byKey? value = some sorted →
    AllTables Keyed.Ascending sorted
  | .string _, _, h | .integer _, _, h | .float _, _, h | .boolean _, _, h | .datetime _, _, h => by
    cases h
    trivial
  | .array items, _, h => by
    obtain ⟨others, hothers, rfl⟩ := Option.map_eq_some_iff.1 h
    exact itemsAllTables_of_byKey? hothers
  | .table entries, _, h => by
    obtain ⟨d, rfl⟩ | ⟨again, hagain, rfl⟩ := byKey?_table_cases h
    · trivial
    · have hvalues := entriesAllTables_iff.1 (entriesAllTables_of_byKey? hagain)
      refine ⟨Keyed.ofList_ascending again, entriesAllTables_iff.2 fun entry hentry => ?_⟩
      exact hvalues entry (Keyed.mem_of_mem_ofList hentry)

theorem itemsAllTables_of_byKey? : ∀ {items sorted : List Toml}, itemsByKey? items = some sorted →
    ItemsAllTables Keyed.Ascending sorted
  | [], _, h => by
    cases h
    trivial
  | item :: rest, _, h => by
    simp only [itemsByKey?, Option.bind_eq_bind, Option.bind_eq_some_iff, Option.some.injEq] at h
    obtain ⟨first, hfirst, others, hothers, rfl⟩ := h
    exact ⟨allTables_of_byKey? hfirst, itemsAllTables_of_byKey? hothers⟩

theorem entriesAllTables_of_byKey? : ∀ {entries sorted : List (String × Toml)},
    entriesByKey? entries = some sorted → EntriesAllTables Keyed.Ascending sorted
  | [], _, h => by
    cases h
    trivial
  | (key, value) :: rest, _, h => by
    simp only [entriesByKey?, Option.bind_eq_bind, Option.bind_eq_some_iff, Option.some.injEq] at h
    obtain ⟨first, hfirst, others, hothers, rfl⟩ := h
    exact ⟨allTables_of_byKey? hfirst, entriesAllTables_of_byKey? hothers⟩

end

/-- A table without the key that marks a date-time. -/
def Unmarked (entries : List (String × Toml)) : Prop := datetimeKey ∉ entries.map Prod.fst

theorem byKey?_table {entries : List (String × Toml)} (h : Unmarked entries) :
    byKey? (table entries) =
      (entriesByKey? entries).map fun sorted => table (Keyed.ofList sorted) := by
  cases entries with
  | nil => rfl
  | cons entry rest =>
    obtain ⟨key, value⟩ := entry
    have hkey : key ≠ datetimeKey := fun heq => h (by simp [heq])
    cases value <;> simp [byKey?, hkey]

mutual

/-- **A value in order comes back**, if no table in it has the key that marks a date-time. -/
theorem isReadBack_of_allTables : ∀ {value : Toml}, AllTables Keyed.Ascending value →
    AllTables Unmarked value → IsReadBack value
  | .string _, _, _ => by
    rintro read rfl
    rfl
  | .integer _, _, _ => by
    rintro read rfl
    rfl
  | .float _, _, _ => by
    rintro read rfl
    rfl
  | .boolean _, _, _ => by
    rintro read rfl
    rfl
  | .datetime _, _, _ => by
    rintro read rfl
    rfl
  | .array items, hordered, hunmarked => by
    rintro read ⟨others, rfl, hothers⟩
    have hitems := isReadBack_of_itemsAllTables hordered hunmarked
    rw [byKey?, itemsByKey?_of_reread hitems hothers]
    rfl
  | .table entries, hordered, hunmarked => by
    rintro read ⟨between, others, rfl, hbetween, hperm⟩
    have hvalues := isReadBack_of_entriesAllTables hordered.2 hunmarked.2
    have hsorted := ofList_of_reread hordered.1 hvalues hbetween hperm
    -- the table that is read has the same keys, so it is no date-time either
    have hothers : Unmarked others := fun hmem => hunmarked.1
      (hbetween.keys_eq ▸ (hperm.map Prod.fst).mem_iff.2 hmem)
    rw [byKey?_table hothers]
    simpa [Option.map_eq_some_iff] using hsorted

theorem isReadBack_of_itemsAllTables : ∀ {items : List Toml},
    ItemsAllTables Keyed.Ascending items → ItemsAllTables Unmarked items →
      ∀ item ∈ items, item.IsReadBack
  | [], _, _ => by simp
  | _ :: _, hordered, hunmarked => List.forall_mem_cons.2
    ⟨isReadBack_of_allTables hordered.1 hunmarked.1,
      isReadBack_of_itemsAllTables hordered.2 hunmarked.2⟩

theorem isReadBack_of_entriesAllTables : ∀ {entries : List (String × Toml)},
    EntriesAllTables Keyed.Ascending entries → EntriesAllTables Unmarked entries →
      ∀ entry ∈ entries, entry.2.IsReadBack
  | [], _, _ => by simp
  | (_, _) :: _, hordered, hunmarked => List.forall_mem_cons.2
    ⟨isReadBack_of_allTables hordered.1 hunmarked.1,
      isReadBack_of_entriesAllTables hordered.2 hunmarked.2⟩

end

end Toml

end TrackSelect
