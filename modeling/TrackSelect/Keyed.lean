/-!
# Keyed lists

Pairs of a key and a value, in ascending order of the keys and with no key twice. `put` keeps
both; keys are ordered by code points. Only `put` builds such lists, starting from the empty one.
-/

namespace TrackSelect.Keyed

variable {α : Type}

/-- Set the value of a key, at the key's place in the order. -/
def put (key : String) (value : α) : List (String × α) → List (String × α)
  | [] => [(key, value)]
  | (k, v) :: rest =>
    if key = k then (key, value) :: rest
    else if key < k then (key, value) :: (k, v) :: rest
    else (k, v) :: put key value rest

/-- The value of a key. -/
def get? (key : String) (fields : List (String × α)) : Option α := fields.lookup key

/-- The keyed list of some pairs; of two pairs with one key the later counts. -/
def ofList (pairs : List (String × α)) : List (String × α) :=
  pairs.foldl (fun fields pair => put pair.1 pair.2 fields) []

/-- The keys, in order. -/
def keys (fields : List (String × α)) : List String := fields.map Prod.fst

/-- The value of a key in a list with a first pair. -/
theorem get?_cons (key k : String) (v : α) (rest : List (String × α)) :
    get? key ((k, v) :: rest) = if key = k then some v else get? key rest := by
  have h : get? key ((k, v) :: rest) =
      match key == k with
      | true => some v
      | false => get? key rest := rfl
  rw [h]
  by_cases hk : key = k
  · simp [hk]
  · have hb : (key == k) = false := by simp [hk]
    simp [hk, hb]

@[simp] theorem get?_put_self (key : String) (value : α) (fields : List (String × α)) :
    get? key (put key value fields) = some value := by
  induction fields with
  | nil => simp [put, get?_cons]
  | cons pair rest ih =>
    obtain ⟨k, v⟩ := pair
    by_cases h : key = k
    · simp [put, get?_cons, h]
    · by_cases hlt : key < k
      · simp [put, get?_cons, h, hlt]
      · simp [put, get?_cons, h, hlt, ih]

end TrackSelect.Keyed
