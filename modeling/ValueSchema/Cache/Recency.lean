/-
Lists of entries in the order of their last use.

The most recent entry comes first and no key occurs twice. Looking an entry up moves it to the
front; writing one puts it there and, where no room is left for a new key, drops the entry that
was not used for longest.
-/

set_option autoImplicit false

namespace ValueSchema.Recency

variable {κ ν : Type} [DecidableEq κ]

/-- The entry of a key. -/
def find? (key : κ) (l : List (κ × ν)) : Option ν := (l.find? fun e => e.1 = key).map Prod.snd

/-- The entries of the other keys. -/
def remove (key : κ) (l : List (κ × ν)) : List (κ × ν) := l.filter fun e => !decide (e.1 = key)

/-- The entry of a key is the one used last. -/
def promote (key : κ) (l : List (κ × ν)) : List (κ × ν) :=
  match find? key l with
  | some v => (key, v) :: remove key l
  | none => l

/-- The entries that fit. -/
def fit (capacity : Option Nat) (l : List (κ × ν)) : List (κ × ν) :=
  match capacity with
  | some n => l.take n
  | none => l

/-- Writes the entry of a key. -/
def write (capacity : Option Nat) (key : κ) (v : ν) (l : List (κ × ν)) : List (κ × ν) :=
  fit capacity ((key, v) :: remove key l)

theorem mem_remove (key : κ) (e : κ × ν) (l : List (κ × ν)) :
    e ∈ remove key l ↔ e ∈ l ∧ e.1 ≠ key := by
  simp [remove]

/-- Removing a key takes its entry away and no other. -/
theorem find?_remove (key k : κ) (l : List (κ × ν)) :
    find? k (remove key l) = if k = key then none else find? k l := by
  simp only [find?, remove, List.find?_filter]
  by_cases h : k = key
  · subst h
    simp
  · have hsame : (fun e : κ × ν => (!decide (e.1 = key)) && decide (e.1 = k))
        = fun e => decide (e.1 = k) := by
      funext e
      by_cases he : e.1 = k
      · simp [he, h]
      · simp [he]
    simp [h, hsame]

end ValueSchema.Recency
