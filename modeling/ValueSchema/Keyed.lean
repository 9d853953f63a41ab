/-
Ordered association lists with one entry per key.

Object values and object shapes are such lists: they remember the order in which keys first
appeared, and writing to a key that is present keeps its place.
-/

set_option autoImplicit false

namespace ValueSchema.Keyed

variable {α β : Type}

/-- The entry of a key. -/
def find? (key : String) (l : List (String × α)) : Option α := l.lookup key

/-- A key is present. -/
def has (key : String) (l : List (String × α)) : Bool := (find? key l).isSome

def keys (l : List (String × α)) : List String := l.map Prod.fst

/-- Writes an entry: in place if the key is present, at the end otherwise. -/
def insert (key : String) (value : α) : List (String × α) → List (String × α)
  | [] => [(key, value)]
  | (k, v) :: rest =>
    if k = key then (k, value) :: rest else (k, v) :: insert key value rest

/-- Writes entries one after the other. -/
def insertAll (l : List (String × α)) (entries : List (String × α)) : List (String × α) :=
  entries.foldl (fun acc e => insert e.1 e.2 acc) l

/-- The association list of entries written in order. -/
def ofList (entries : List (String × α)) : List (String × α) := insertAll [] entries

/-- The value of every entry changed, keys and order kept. -/
def mapValues (f : α → β) (l : List (String × α)) : List (String × β) :=
  l.map fun e => (e.1, f e.2)

theorem find?_nil (key : String) : find? key ([] : List (String × α)) = none := rfl

theorem find?_cons (key k : String) (v : α) (l : List (String × α)) :
    find? key ((k, v) :: l) = if key == k then some v else find? key l := by
  show (match key == k with | true => some v | false => List.lookup key l) = _
  cases key == k <;> rfl

/-- What a look-up finds is an entry of the list. -/
theorem mem_of_find? {key : String} {v : α} {l : List (String × α)} (h : find? key l = some v) :
    (key, v) ∈ l := by
  obtain ⟨l₁, l₂, hl, _⟩ := List.lookup_eq_some_iff.mp h
  rw [hl]
  exact List.mem_append_right _ List.mem_cons_self

/-- Writing to a key changes the entry of that key and of no other. -/
theorem find?_insert (key k : String) (v : α) (l : List (String × α)) :
    find? k (insert key v l) = if k = key then some v else find? k l := by
  induction l with
  | nil =>
    by_cases h : k = key <;> simp [insert, find?_cons, find?_nil, h]
  | cons e rest ih =>
    obtain ⟨k', v'⟩ := e
    by_cases hk : k' = key
    · by_cases h : k = key
      · simp [insert, find?_cons, hk, h]
      · simp [insert, find?_cons, hk, h]
    · by_cases h : k = k'
      · subst h
        simp [insert, find?_cons, hk]
      · simp [insert, find?_cons, hk, h, ih]

theorem keys_insert_of_mem (key : String) (v : α) (l : List (String × α))
    (h : key ∈ keys l) : keys (insert key v l) = keys l := by
  induction l with
  | nil => simp [keys] at h
  | cons e rest ih =>
    obtain ⟨k', v'⟩ := e
    by_cases hk : k' = key
    · simp [insert, keys, hk]
    · have hm : key ∈ keys rest := by
        simp only [keys, List.map_cons, List.mem_cons] at h
        rcases h with h | h
        · exact absurd h.symm hk
        · exact h
      have := ih hm
      simp only [keys] at this
      simp [insert, keys, hk, this]

theorem keys_insert_of_not_mem (key : String) (v : α) (l : List (String × α))
    (h : key ∉ keys l) : keys (insert key v l) = keys l ++ [key] := by
  induction l with
  | nil => rfl
  | cons e rest ih =>
    obtain ⟨k', v'⟩ := e
    simp only [keys, List.map_cons, List.mem_cons, not_or] at h
    have hk : ¬ k' = key := fun e => h.1 e.symm
    have := ih h.2
    simp only [keys] at this
    simp [insert, keys, hk, this]

/-- No key is ever written twice. -/
theorem nodup_keys_insert (key : String) (v : α) (l : List (String × α))
    (h : (keys l).Nodup) : (keys (insert key v l)).Nodup := by
  by_cases hm : key ∈ keys l
  · rw [keys_insert_of_mem key v l hm]; exact h
  · rw [keys_insert_of_not_mem key v l hm]
    rw [List.nodup_append]
    refine ⟨h, by simp, ?_⟩
    intro a ha b hb e
    simp only [List.mem_singleton] at hb
    subst hb; subst e
    exact hm ha

end ValueSchema.Keyed
