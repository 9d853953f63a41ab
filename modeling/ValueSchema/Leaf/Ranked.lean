/-
Lists of checks in the order of their ranks.

A check is added behind every check of its own rank or a lower one, so the list stays sorted and
checks of one rank stay in the order in which they were added.
-/

set_option autoImplicit false

namespace ValueSchema.Ranked

variable {α : Type}

/-- Adds a check to a sorted list. -/
def insert (rank : α → Nat) (new : α) : List α → List α
  | [] => [new]
  | c :: rest => if rank new < rank c then new :: c :: rest else c :: insert rank new rest

theorem mem_insert (rank : α → Nat) (new c : α) (l : List α) :
    c ∈ insert rank new l ↔ c = new ∨ c ∈ l := by
  induction l with
  | nil => simp [insert]
  | cons d rest ih =>
    by_cases h : rank new < rank d
    · simp [insert, h]
    · simp only [insert, h, if_false, List.mem_cons, ih]
      constructor
      · rintro (h | h | h) <;> simp [h]
      · rintro (h | h | h) <;> simp [h]

end ValueSchema.Ranked
