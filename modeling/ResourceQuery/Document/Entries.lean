/-!
Entries by key, in the order in which the keys were first put. Putting a value
for a key that is there replaces the value and keeps the place.
-/

namespace ResourceQuery

abbrev Entries (α : Type) := List (String × α)

namespace Entries

variable {α : Type}

def get? (es : Entries α) (key : String) : Option α :=
  match es with
  | [] => none
  | (k, v) :: rest => if k = key then some v else get? rest key

def has (es : Entries α) (key : String) : Bool := (get? es key).isSome

def put (es : Entries α) (key : String) (value : α) : Entries α :=
  match es with
  | [] => [(key, value)]
  | (k, v) :: rest => if k = key then (k, value) :: rest else (k, v) :: put rest key value

def putAll (es fs : Entries α) : Entries α := fs.foldl (fun es f => put es f.1 f.2) es

/-- Of several values for a key the last one counts, at the place of the first. -/
def ofPairs (fs : Entries α) : Entries α := putAll [] fs

def keys (es : Entries α) : List String := es.map (·.1)

@[simp] theorem get?_nil (key : String) : get? ([] : Entries α) key = none := rfl

@[simp] theorem get?_put_self (es : Entries α) (key : String) (value : α) :
    get? (put es key value) key = some value := by
  induction es with
  | nil => simp [put, get?]
  | cons e es ih =>
    simp only [put]
    split
    · simp [get?, *]
    · simp [get?, *]

theorem get?_put_of_ne (es : Entries α) {key other : String} (value : α) (h : other ≠ key) :
    get? (put es key value) other = get? es other := by
  induction es with
  | nil => simp [put, get?, Ne.symm h]
  | cons e es ih =>
    simp only [put]
    split
    · rename_i hk
      have : ¬ e.1 = other := by rw [hk]; exact Ne.symm h
      simp [get?, this]
    · simp only [get?, ih]

theorem get?_isSome_iff (es : Entries α) (key : String) :
    (get? es key).isSome = true ↔ key ∈ keys es := by
  induction es with
  | nil => simp [get?, keys]
  | cons e es ih =>
    simp only [get?, keys, List.map_cons, List.mem_cons] at ih ⊢
    split
    · simp [*]
    · rename_i hk
      rw [ih]
      constructor
      · exact Or.inr
      · rintro (h | h)
        · exact absurd h.symm hk
        · exact h

theorem keys_put (es : Entries α) (key : String) (value : α) :
    keys (put es key value) = if key ∈ keys es then keys es else keys es ++ [key] := by
  induction es with
  | nil => simp [put, keys]
  | cons e es ih =>
    simp only [put, keys, List.map_cons, List.mem_cons] at ih ⊢
    split
    · simp [*]
    · rename_i hk
      have hk : ¬ key = e.1 := fun h => hk h.symm
      rw [List.map_cons, ih]
      by_cases hm : key ∈ List.map (fun x => x.fst) es <;> simp [hm, hk]

end Entries
end ResourceQuery
