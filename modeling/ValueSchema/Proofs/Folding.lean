/-
Plans of what was asked for.

The constraints of a text or a number are asked for one by one. A schema keeps them in the order in
which they run, and its plan is folded from them in that order. Neither order shows in what the plan
accepts: a value fits the plan exactly if it passes every constraint that was asked for, however
often constraints are repeated, whether they contradict each other, and also where a bound is NaN or
a pattern is not run at all. What a plan cannot tell is only which constraint fails first.
-/
import ValueSchema.Proofs.Constraints

set_option autoImplicit false

namespace ValueSchema

/-- What runs is what was asked for. -/
theorem Ranked.mem_sort {α : Type} (rank : α → Nat) (l : List α) (a : α) :
    a ∈ sort rank l ↔ a ∈ l := by
  induction l using List.reverseRecOn with
  | nil => exact Iff.rfl
  | append_singleton l b ih =>
    rw [sort_concat, mem_insert, ih, List.mem_append, List.mem_singleton, or_comm]

/-! ## Texts -/

theorem TextCheck.passes_iff (c : TextCheck) (limits : Limits) (s : String) :
    c.passes limits s = true ↔ c.holds limits s = .ok true := by
  unfold passes
  cases c.holds limits s with
  | error r => simp
  | ok b => simp

namespace TextSchema

theorem firstFailure?_eq_none_iff (t : TextSchema) (s : String) :
    t.firstFailure? s = none ↔ ∀ c ∈ t.checks, c.holds t.limits s = .ok true := by
  rw [← Option.isNone_iff_eq_none, firstFailure?, failureAmong?_isNone, List.all_eq_true]
  exact forall₂_congr fun c _ => c.passes_iff t.limits s

/-- **A plan of texts accepts what has no failure.** So it is for every text schema; and of one that
was built by asking for constraints in some order, the plan accepts a text exactly if every single
constraint that was asked for holds of it, no pattern being refused. -/
theorem plan_accepts_iff_no_failure (s : String) :
    (∀ t : TextSchema, t.plan.accepts s = true ↔ t.firstFailure? s = none)
      ∧ ∀ (transforms : List TextTransform) (limits : Limits) (l : List TextCheck),
        (ofChecks transforms limits l).plan.accepts s = true
          ↔ ∀ c ∈ l, c.holds limits s = .ok true := by
  have hplan (t : TextSchema) : t.plan.accepts s = true ↔ t.firstFailure? s = none := by
    rw [plan_accepts_eq, ← Option.isNone_iff_eq_none]
    rfl
  refine ⟨hplan, fun transforms limits l => ?_⟩
  rw [hplan, firstFailure?_eq_none_iff, ofChecks_eq]
  exact forall_congr' fun c => by rw [Ranked.mem_sort]

/-- Contradictory lengths leave a range without a length. -/
example : (ofChecks [] Limits.standard [.max 3, .nonempty, .length 5]).plan.minChars = 5
    ∧ (ofChecks [] Limits.standard [.max 3, .nonempty, .length 5]).plan.maxChars = some 3 := by
  decide

end TextSchema

/-! ## Numbers -/

namespace NumberSchema

/-- **A plan of numbers accepts what all checks hold of.** So it is for every number schema; and of
one that was built by asking for constraints in some order, the plan accepts a number exactly if it
is not NaN and every single constraint that was asked for holds of it. -/
theorem plan_accepts_iff_all_hold (n : Double) :
    (∀ s : NumberSchema, s.plan.accepts n = true
        ↔ n.isNaN = false ∧ ∀ c ∈ s.checks, c.holds n = true)
      ∧ ∀ l : List NumberCheck, (ofChecks l).plan.accepts n = true
        ↔ n.isNaN = false ∧ ∀ c ∈ l, c.holds n = true := by
  have hplan (s : NumberSchema) : s.plan.accepts n = true
      ↔ n.isNaN = false ∧ ∀ c ∈ s.checks, c.holds n = true := by
    rw [plan_accepts_eq, accepts, firstFailure?, isNone_find?_not, Bool.and_eq_true,
      Bool.not_eq_true', List.all_eq_true]
  refine ⟨hplan, fun l => ?_⟩
  rw [hplan, ofChecks_eq]
  exact and_congr_right' (forall_congr' fun c => by rw [Ranked.mem_sort])

/-- Of the two zeros, which are equal bounds, the exclusive one stays. -/
example : (ofChecks [.min Double.negativeZero true, .positive]).plan.lower
    = ⟨Double.negativeZero, false⟩ := by decide

end NumberSchema

end ValueSchema
