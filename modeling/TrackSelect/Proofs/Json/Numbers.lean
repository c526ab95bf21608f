import TrackSelect.Json.Literal

/-!
# Whole numbers of a JSON text

A whole number is kept as it is when it has 64 bits, and is a binary64 number otherwise. The reader
takes in digits only as long as what they make has 64 bits (`NumberText.takeDigits_lt`), so this
holds of every number in a text, however deep it stands (`Literal.isSized_of_read?`).
-/

namespace TrackSelect.Json

/-! ## Numbers -/

/-- A whole number of 64 bits, or a number of another form. -/
def Number.IsSized : Number → Prop
  | .natural n => n < NumberText.word
  | _ => True

theorem NumberText.takeDigits_lt {significand : Nat} {digits : List Char}
    (h : significand < word) : (takeDigits significand digits).1 < word := by
  induction digits generalizing significand with
  | nil => exact h
  | cons c digits ih =>
    unfold takeDigits
    dsimp only
    split
    · next hnext => exact ih hnext
    · exact h

theorem NumberText.isSized_value? {text : NumberText} {n : Number} (h : text.value? = some n) :
    n.IsSized := by
  have hleading : (takeDigits 0 text.whole).1 < word := takeDigits_lt (by decide)
  unfold value? at h
  dsimp only at h
  split at h
  · split at h
    · cases h
      exact hleading
    · split at h <;> cases h <;> trivial
  · obtain ⟨x, -, rfl⟩ := Option.map_eq_some_iff.1 h
    trivial

namespace Literal

/-! ## Literals -/

/-- A number is the value of its text. -/
theorem exists_value?_of_number? {cs rest : List Char} {n : Option Number}
    (h : number? cs = some (n, rest)) : ∃ text : NumberText, n = text.value? := by
  unfold number? at h
  simp only [Option.bind_eq_bind, Option.bind_eq_some_iff, Option.ite_none_left_eq_some] at h
  obtain ⟨_, _, _, h⟩ := h
  have hlast : ∀ (negative : Bool) (whole fraction : List Char)
      (o : Option (Option (Bool × List Char) × List Char)),
      (o.bind fun x => some (NumberText.value? ⟨negative, whole, fraction, x.1⟩, x.2)) =
        some (n, rest) → ∃ text : NumberText, n = text.value? := by
    intro negative whole fraction o ho
    obtain ⟨x, -, hx⟩ := Option.bind_eq_some_iff.1 ho
    cases hx
    exact ⟨_, rfl⟩
  split at h
  · obtain ⟨_, _, h⟩ := Option.bind_eq_some_iff.1 h
    split at h
    · split at h <;> exact hlast _ _ _ _ h
    · exact hlast _ _ _ _ h
  · obtain ⟨_, _, h⟩ := Option.bind_eq_some_iff.1 h
    split at h
    · split at h <;> exact hlast _ _ _ _ h
    · exact hlast _ _ _ _ h

/-- All whole numbers in a literal have 64 bits. -/
inductive IsSized : Literal → Prop where
  | null : IsSized null
  | bool (b : Bool) : IsSized (bool b)
  | number {n : Option Number} (h : ∀ x ∈ n, x.IsSized) : IsSized (number n)
  | string (text : Option String) : IsSized (string text)
  | array {items : List Literal} (h : ∀ item ∈ items, IsSized item) : IsSized (array items)
  | object {fields : List (Option String × Literal)} (h : ∀ field ∈ fields, IsSized field.2) :
    IsSized (object fields)

/-- What is read within some steps is sized. -/
structure ReadsSized (fuel : Nat) : Prop where
  value : ∀ {cs item rest}, value fuel cs = some (item, rest) → IsSized item
  elements : ∀ {cs items rest}, elements fuel cs = some (items, rest) →
    ∀ item ∈ items, IsSized item
  members : ∀ {cs fields rest}, members fuel cs = some (fields, rest) →
    ∀ field ∈ fields, IsSized field.2

theorem ReadsSized.value_succ {fuel : Nat} (ih : ReadsSized fuel) {cs rest : List Char}
    {item : Literal} (h : Literal.value (fuel + 1) cs = some (item, rest)) : IsSized item := by
  rw [Literal.value] at h
  split at h
  · cases h
    exact .null
  · cases h
    exact .bool true
  · cases h
    exact .bool false
  · obtain ⟨⟨text, _⟩, -, h⟩ := Option.map_eq_some_iff.1 h
    cases h
    exact .string text
  · split at h
    · cases h
      exact .array nofun
    · obtain ⟨⟨items, _⟩, hitems, h⟩ := Option.map_eq_some_iff.1 h
      cases h
      exact .array (ih.elements hitems)
  · split at h
    · cases h
      exact .object nofun
    · obtain ⟨⟨fields, _⟩, hfields, h⟩ := Option.map_eq_some_iff.1 h
      cases h
      exact .object (ih.members hfields)
  · obtain ⟨⟨n, _⟩, hn, h⟩ := Option.map_eq_some_iff.1 h
    cases h
    obtain ⟨text, rfl⟩ := exists_value?_of_number? hn
    exact .number fun x hx => NumberText.isSized_value? hx

theorem ReadsSized.elements_succ {fuel : Nat} (ih : ReadsSized fuel) {cs rest : List Char}
    {items : List Literal} (h : Literal.elements (fuel + 1) cs = some (items, rest)) :
    ∀ item ∈ items, IsSized item := by
  rw [Literal.elements] at h
  obtain ⟨⟨item, behind⟩, hitem, h⟩ := Option.bind_eq_some_iff.1 h
  have hsized := ih.value hitem
  dsimp only at h
  split at h
  · obtain ⟨⟨more, _⟩, hmore, h⟩ := Option.map_eq_some_iff.1 h
    cases h
    exact List.forall_mem_cons.2 ⟨hsized, ih.elements hmore⟩
  · cases h
    exact List.forall_mem_singleton.2 hsized
  · cases h

theorem ReadsSized.members_succ {fuel : Nat} (ih : ReadsSized fuel) {cs rest : List Char}
    {fields : List (Option String × Literal)}
    (h : Literal.members (fuel + 1) cs = some (fields, rest)) :
    ∀ field ∈ fields, IsSized field.2 := by
  rw [Literal.members] at h
  split at h
  · obtain ⟨⟨key, behind⟩, -, h⟩ := Option.bind_eq_some_iff.1 h
    dsimp only at h
    split at h
    · obtain ⟨⟨item, behind⟩, hitem, h⟩ := Option.bind_eq_some_iff.1 h
      have hsized := ih.value hitem
      dsimp only at h
      split at h
      · obtain ⟨⟨more, _⟩, hmore, h⟩ := Option.map_eq_some_iff.1 h
        cases h
        exact List.forall_mem_cons.2 ⟨hsized, ih.members hmore⟩
      · cases h
        exact List.forall_mem_singleton.2 hsized
      · cases h
    · cases h
  · cases h

theorem readsSized (fuel : Nat) : ReadsSized fuel := by
  induction fuel with
  | zero => exact ⟨nofun, nofun, nofun⟩
  | succ fuel ih => exact ⟨ih.value_succ, ih.elements_succ, ih.members_succ⟩

theorem isSized_of_read? {text : String} {item : Literal} (h : read? text = some item) :
    IsSized item := by
  unfold read? at h
  split at h
  · next literal rest hvalue =>
    obtain ⟨-, h⟩ := Option.ite_none_right_eq_some.1 h
    cases h
    exact (readsSized _).value hvalue
  · cases h

end Literal
end TrackSelect.Json
