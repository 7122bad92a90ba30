/-!
# Tables: finite maps that remember the order of their keys

Scripts, variables, costumes and messages are all kept by name, and every listing that leaves the
program shows them in the order in which they were first stored. A `Table` is therefore a list of
pairs: a new key goes to the end, and a key that is already present keeps its place and takes the
new value. The one reading of a table is `Table.find?`.
-/

namespace BlockScript

/-- A map from strings, in order of first insertion. -/
abbrev Table (α : Type) := List (String × α)

namespace Table

variable {α β : Type}

/-- The value stored under a key. -/
def find? : Table α → String → Option α
  | [], _ => none
  | (k, v) :: rest, key => if k = key then some v else find? rest key

def has (t : Table α) (key : String) : Bool := (t.find? key).isSome

/-- Stores a value: in place when the key is present, at the end otherwise. -/
def set : Table α → String → α → Table α
  | [], key, value => [(key, value)]
  | (k, v) :: rest, key, value =>
    if k = key then (k, value) :: rest else (k, v) :: set rest key value

/-- Changes the value under a key, if there is one. -/
def adjust : Table α → String → (α → α) → Table α
  | [], _, _ => []
  | (k, v) :: rest, key, f => if k = key then (k, f v) :: rest else (k, v) :: adjust rest key f

/-- The keys, in order. -/
def keys (t : Table α) : List String := t.map Prod.fst

/-- Stores every pair of a second table, from its first to its last. -/
def merge (t u : Table α) : Table α := u.foldl (fun acc p => acc.set p.1 p.2) t

/-- The table that a list of pairs describes: of a repeated key the first place and the last value
count. -/
def ofPairs (pairs : List (String × α)) : Table α := merge [] pairs

/-! ### Reading back what was stored -/

@[simp] theorem find?_nil (key : String) : find? ([] : Table α) key = none := rfl

theorem find?_set (t : Table α) (key k : String) (v : α) :
    (t.set key v).find? k = if key = k then some v else t.find? k := by
  induction t with
  | nil => simp [set, find?]
  | cons p rest ih =>
    obtain ⟨k', v'⟩ := p
    by_cases h : k' = key
    · subst h
      by_cases hk : k' = k <;> simp [set, find?, hk]
    · by_cases hk : k' = k
      · subst hk
        simp [set, find?, h, Ne.symm h]
      · simp [set, find?, h, hk, ih]

@[simp] theorem find?_set_self (t : Table α) (key : String) (v : α) :
    (t.set key v).find? key = some v := by
  simp [find?_set]

theorem find?_set_of_ne (t : Table α) {key k : String} (v : α) (h : key ≠ k) :
    (t.set key v).find? k = t.find? k := by
  simp [find?_set, h]

theorem find?_adjust (t : Table α) (key k : String) (f : α → α) :
    (t.adjust key f).find? k = if key = k then (t.find? k).map f else t.find? k := by
  induction t with
  | nil => simp [adjust, find?]
  | cons p rest ih =>
    obtain ⟨k', v'⟩ := p
    by_cases h : k' = key
    · subst h
      by_cases hk : k' = k <;> simp [adjust, find?, hk]
    · by_cases hk : k' = k
      · subst hk
        simp [adjust, find?, h, Ne.symm h]
      · simp [adjust, find?, h, hk, ih]

/-! ### The order of the keys -/

theorem set_of_find?_eq_none (t : Table α) {key : String} (v : α) (h : t.find? key = none) :
    t.set key v = t ++ [(key, v)] := by
  induction t with
  | nil => rfl
  | cons p rest ih =>
    obtain ⟨k', v'⟩ := p
    by_cases hk : k' = key
    · simp [find?, hk] at h
    · simp only [find?, hk, if_false] at h
      simp [set, hk, ih h]

theorem keys_set_of_has (t : Table α) {key : String} (v : α) (h : t.has key = true) :
    (t.set key v).keys = t.keys := by
  induction t with
  | nil => simp [has] at h
  | cons p rest ih =>
    obtain ⟨k', v'⟩ := p
    by_cases hk : k' = key
    · simp [set, keys, hk]
    · have hrest : has rest key = true := by simpa [has, find?, hk] using h
      simpa [set, keys, hk] using ih hrest

@[simp] theorem keys_adjust (t : Table α) (key : String) (f : α → α) :
    (t.adjust key f).keys = t.keys := by
  induction t with
  | nil => rfl
  | cons p rest ih =>
    obtain ⟨k', v'⟩ := p
    by_cases hk : k' = key
    · simp [adjust, keys, hk]
    · simpa [adjust, keys, hk] using ih

end Table

end BlockScript
