/-
Folded checks.

A plan folds the checks of a leaf as they come, bounds into one interval or one range of lengths,
and the rest into a list. Folding a check in adds exactly what the check demands: that is the
step, whatever was folded in before, and by induction a plan accepts what passes all checks. Which
check fails first is lost in a plan, whether one fails is not.
-/
import ValueSchema.Leaf.Number
import ValueSchema.Leaf.Text

set_option autoImplicit false

namespace ValueSchema

/-! ## Numbers -/

namespace Double

theorem rank_eq_none {d : Double} (h : d.isNaN = true) : d.rank = none := by
  unfold rank
  rw [if_pos h]

theorem exists_rank {d : Double} (h : d.isNaN = false) : ∃ x, d.rank = some x := by
  -- what is not NaN has a sign and a magnitude, and so a place in the order
  unfold rank
  rw [h]
  split
  · contradiction
  · split <;> exact ⟨_, rfl⟩

/-- Every number lies between the infinities. -/
theorem rank_le_infinity {d : Double} {x : Int} (h : d.rank = some x) :
    -(infinityMagnitude : Int) ≤ x ∧ x ≤ infinityMagnitude := by
  unfold rank at h
  by_cases hn : d.isNaN = true
  · rw [if_pos hn] at h
    cases h
  · rw [if_neg hn] at h
    -- a magnitude above that of the infinities is a NaN
    have hmag : d.magnitude ≤ infinityMagnitude := by
      simp only [isNaN, decide_eq_true_eq] at hn
      omega
    split at h <;> cases h <;> omega

end Double

/-- A number lies on the inner side of a lower end. -/
def Bound.admitsAbove (b : Bound) (n : Double) : Bool :=
  b.value.lt n || (b.inclusive && n.eq b.value)

/-- A number lies on the inner side of an upper end. -/
def Bound.admitsBelow (b : Bound) (n : Double) : Bool :=
  n.lt b.value || (b.inclusive && n.eq b.value)

theorem Bound.admitsAbove_eq (value : Double) (inclusive : Bool) (n : Double) :
    Bound.admitsAbove ⟨value, inclusive⟩ n
      = if inclusive then value.le n else value.lt n := by
  unfold Bound.admitsAbove Double.lt Double.le Double.eq
  dsimp only
  cases value.rank with
  | none => cases inclusive <;> cases n.rank <;> rfl
  | some y =>
    cases n.rank with
    | none => cases inclusive <;> rfl
    | some x =>
      -- two numbers compare as their ranks do
      cases inclusive with
      | false => simp
      | true =>
        rw [if_pos rfl, Bool.true_and, Bool.eq_iff_iff, Bool.or_eq_true, decide_eq_true_eq,
          beq_iff_eq, decide_eq_true_eq]
        omega

theorem Bound.admitsBelow_eq (value : Double) (inclusive : Bool) (n : Double) :
    Bound.admitsBelow ⟨value, inclusive⟩ n
      = if inclusive then n.le value else n.lt value := by
  unfold Bound.admitsBelow Double.lt Double.le Double.eq
  dsimp only
  cases n.rank with
  | none => cases inclusive <;> cases value.rank <;> rfl
  | some x =>
    cases value.rank with
    | none => cases inclusive <;> rfl
    | some y =>
      cases inclusive with
      | false => simp
      | true =>
        rw [if_pos rfl, Bool.true_and, Bool.eq_iff_iff, Bool.or_eq_true, decide_eq_true_eq,
          beq_iff_eq, decide_eq_true_eq]
        omega

/-- Of two lower ends the greater one admits what both admit. -/
theorem strict_above {x y z : Int} (h : y < z) (i j : Bool) :
    (decide (z < x) || (j && x == z))
      = ((decide (y < x) || (i && x == y)) && (decide (z < x) || (j && x == z))) := by
  rw [Bool.eq_iff_iff]
  cases i <;> cases j <;> simp <;> omega

/-- Of two upper ends the lesser one admits what both admit. -/
theorem strict_below {x y z : Int} (h : z < y) (i j : Bool) :
    (decide (x < z) || (j && x == z))
      = ((decide (x < y) || (i && x == y)) && (decide (x < z) || (j && x == z))) := by
  rw [Bool.eq_iff_iff]
  cases i <;> cases j <;> simp <;> omega

/-- Of two equal ends the exclusive one admits what both admit. -/
theorem strict_both (inside on i j : Bool) :
    (inside || ((i && j) && on)) = ((inside || (i && on)) && (inside || (j && on))) := by
  cases inside <;> cases on <;> cases i <;> cases j <;> rfl

namespace NumberPlan

/-- The ends of the interval are numbers. -/
structure Ordered (p : NumberPlan) : Prop where
  lower : p.lower.value.isNaN = false
  upper : p.upper.value.isNaN = false

theorem accepts_eq (p : NumberPlan) (n : Double) :
    p.accepts n = (!n.isNaN && !p.unsatisfiable && (!p.finite || n.isFinite)
      && (!p.int || n.isIntegral) && p.lower.admitsAbove n && p.upper.admitsBelow n
      && p.steps.all fun step => n.isMultipleOf step) := rfl

theorem start_ordered : start.Ordered := ⟨by decide, by decide⟩

theorem start_accepts {n : Double} (hn : n.isNaN = false) : start.accepts n = true := by
  obtain ⟨x, hx⟩ := Double.exists_rank hn
  have hle := Double.rank_le_infinity hx
  have hlower : Double.negativeInfinity.rank = some (-(Double.infinityMagnitude : Int)) := by
    decide
  have hupper : Double.infinity.rank = some (Double.infinityMagnitude : Int) := by decide
  -- the ends of the first interval are the infinities, both inclusive
  have habove : (Bound.mk Double.negativeInfinity true).admitsAbove n = true := by
    rw [Bound.admitsAbove_eq, if_pos rfl, Double.le, hlower, hx]
    exact decide_eq_true hle.1
  have hbelow : (Bound.mk Double.infinity true).admitsBelow n = true := by
    rw [Bound.admitsBelow_eq, if_pos rfl, Double.le, hupper, hx]
    exact decide_eq_true hle.2
  rw [accepts_eq, hn]
  simp only [start, habove, hbelow]
  rfl

theorem accepts_withLower {p : NumberPlan} {l b : Bound} {n : Double}
    (h : l.admitsAbove n = (p.lower.admitsAbove n && b.admitsAbove n)) :
    NumberPlan.accepts { p with lower := l } n = (p.accepts n && b.admitsAbove n) := by
  rw [accepts_eq, accepts_eq]
  dsimp only
  rw [h]
  cases b.admitsAbove n <;> simp

theorem accepts_withUpper {p : NumberPlan} {u b : Bound} {n : Double}
    (h : u.admitsBelow n = (p.upper.admitsBelow n && b.admitsBelow n)) :
    NumberPlan.accepts { p with upper := u } n = (p.accepts n && b.admitsBelow n) := by
  rw [accepts_eq, accepts_eq]
  dsimp only
  rw [h]
  cases b.admitsBelow n <;> simp

theorem accepts_unsatisfiable (p : NumberPlan) (n : Double) :
    NumberPlan.accepts { p with unsatisfiable := true } n = false := by
  rw [accepts_eq]
  simp

/-- Raising the lower end demands what the new end demands: of two ends the stricter one is kept,
and an end that is no number admits nothing. -/
theorem raise_accepts {p : NumberPlan} (hp : p.Ordered) (b : Bound) {n : Double}
    (hn : n.isNaN = false) : (p.raise b).accepts n = (p.accepts n && b.admitsAbove n) := by
  obtain ⟨x, hx⟩ := Double.exists_rank hn
  obtain ⟨y, hy⟩ := Double.exists_rank hp.lower
  unfold raise
  by_cases hb : b.value.isNaN = true
  · have hnone : b.admitsAbove n = false := by
      simp [Bound.admitsAbove, Double.lt, Double.eq, Double.rank_eq_none hb, hx]
    rw [if_pos hb, accepts_unsatisfiable, hnone, Bool.and_false]
  · obtain ⟨z, hz⟩ := Double.exists_rank (Bool.eq_false_iff.mpr hb)
    -- both ends and the number are told by their ranks
    have hold (i : Bool) : Bound.admitsAbove ⟨p.lower.value, i⟩ n
        = (decide (y < x) || (i && x == y)) := by
      simp only [Bound.admitsAbove, Double.lt, Double.eq, hx, hy]
    have hnew : b.admitsAbove n = (decide (z < x) || (b.inclusive && x == z)) := by
      simp only [Bound.admitsAbove, Double.lt, Double.eq, hx, hz]
    rw [if_neg hb]
    simp only [Double.lt, Double.eq, hy, hz, decide_eq_true_eq, beq_iff_eq]
    by_cases hlt : y < z
    · rw [if_pos hlt]
      refine accepts_withLower ?_
      rw [hold p.lower.inclusive, hnew]
      exact strict_above hlt _ _
    · rw [if_neg hlt]
      by_cases heq : z = y
      · rw [if_pos heq]
        refine accepts_withLower ?_
        rw [hold, hold p.lower.inclusive, hnew, heq]
        exact strict_both _ _ _ _
      · rw [if_neg heq]
        refine accepts_withLower (l := p.lower) ?_
        have hgt : z < y := by omega
        rw [hold p.lower.inclusive, hnew, Bool.and_comm (_ || _)]
        exact strict_above hgt _ _

/-- Lowering the upper end demands what the new end demands. -/
theorem lowerTo_accepts {p : NumberPlan} (hp : p.Ordered) (b : Bound) {n : Double}
    (hn : n.isNaN = false) : (p.lowerTo b).accepts n = (p.accepts n && b.admitsBelow n) := by
  obtain ⟨x, hx⟩ := Double.exists_rank hn
  obtain ⟨y, hy⟩ := Double.exists_rank hp.upper
  unfold lowerTo
  by_cases hb : b.value.isNaN = true
  · have hnone : b.admitsBelow n = false := by
      simp [Bound.admitsBelow, Double.lt, Double.eq, Double.rank_eq_none hb, hx]
    rw [if_pos hb, accepts_unsatisfiable, hnone, Bool.and_false]
  · obtain ⟨z, hz⟩ := Double.exists_rank (Bool.eq_false_iff.mpr hb)
    have hold (i : Bool) : Bound.admitsBelow ⟨p.upper.value, i⟩ n
        = (decide (x < y) || (i && x == y)) := by
      simp only [Bound.admitsBelow, Double.lt, Double.eq, hx, hy]
    have hnew : b.admitsBelow n = (decide (x < z) || (b.inclusive && x == z)) := by
      simp only [Bound.admitsBelow, Double.lt, Double.eq, hx, hz]
    rw [if_neg hb]
    simp only [Double.lt, Double.eq, hy, hz, decide_eq_true_eq, beq_iff_eq]
    by_cases hlt : z < y
    · rw [if_pos hlt]
      refine accepts_withUpper ?_
      rw [hold p.upper.inclusive, hnew]
      exact strict_below hlt _ _
    · rw [if_neg hlt]
      by_cases heq : z = y
      · rw [if_pos heq]
        refine accepts_withUpper ?_
        rw [hold, hold p.upper.inclusive, hnew, heq]
        exact strict_both _ _ _ _
      · rw [if_neg heq]
        refine accepts_withUpper (u := p.upper) ?_
        have hgt : y < z := by omega
        rw [hold p.upper.inclusive, hnew, Bool.and_comm (_ || _)]
        exact strict_below hgt _ _

theorem raise_ordered {p : NumberPlan} (hp : p.Ordered) (b : Bound) : (p.raise b).Ordered := by
  unfold raise
  split
  · exact ⟨hp.lower, hp.upper⟩
  · rename_i hb
    split
    · exact ⟨Bool.eq_false_iff.mpr hb, hp.upper⟩
    · split <;> exact ⟨hp.lower, hp.upper⟩

theorem lowerTo_ordered {p : NumberPlan} (hp : p.Ordered) (b : Bound) :
    (p.lowerTo b).Ordered := by
  unfold lowerTo
  split
  · exact ⟨hp.lower, hp.upper⟩
  · rename_i hb
    split
    · exact ⟨hp.lower, Bool.eq_false_iff.mpr hb⟩
    · split <;> exact ⟨hp.lower, hp.upper⟩

theorem fold_ordered {p : NumberPlan} (hp : p.Ordered) (c : NumberCheck) :
    (p.fold c).Ordered := by
  cases c with
  | finite => exact ⟨hp.lower, hp.upper⟩
  | int => exact ⟨hp.lower, hp.upper⟩
  | safe => exact lowerTo_ordered (raise_ordered hp _) _
  | min bound inclusive => exact raise_ordered hp _
  | max bound inclusive => exact lowerTo_ordered hp _
  | positive => exact raise_ordered hp _
  | negative => exact lowerTo_ordered hp _
  | multipleOf step => exact ⟨hp.lower, hp.upper⟩

/-- **Folding a check in demands what the check demands.** -/
theorem fold_accepts {p : NumberPlan} (hp : p.Ordered) (c : NumberCheck) {n : Double}
    (hn : n.isNaN = false) : (p.fold c).accepts n = (p.accepts n && c.holds n) := by
  cases c with
  | finite =>
    simp only [fold, accepts_eq, NumberCheck.holds]
    cases n.isFinite <;> simp
  | int =>
    simp only [fold, accepts_eq, NumberCheck.holds]
    cases n.isFinite <;> cases n.isIntegral <;> simp
  | safe =>
    simp only [fold, NumberCheck.holds]
    rw [lowerTo_accepts (raise_ordered hp _) _ hn, raise_accepts hp _ hn, Bound.admitsAbove_eq,
      Bound.admitsBelow_eq, if_pos rfl, if_pos rfl, Bool.and_assoc]
  | min bound inclusive =>
    simp only [fold, NumberCheck.holds]
    rw [raise_accepts hp _ hn, Bound.admitsAbove_eq]
  | max bound inclusive =>
    simp only [fold, NumberCheck.holds]
    rw [lowerTo_accepts hp _ hn, Bound.admitsBelow_eq]
  | positive =>
    simp only [fold, NumberCheck.holds]
    rw [raise_accepts hp _ hn, Bound.admitsAbove_eq, if_neg Bool.false_ne_true]
  | negative =>
    simp only [fold, NumberCheck.holds]
    rw [lowerTo_accepts hp _ hn, Bound.admitsBelow_eq, if_neg Bool.false_ne_true]
  | multipleOf step =>
    simp only [fold, accepts_eq, NumberCheck.holds, List.all_append, List.all_cons, List.all_nil,
      Bool.and_true, Bool.and_assoc]

theorem foldl_accepts {n : Double} (hn : n.isNaN = false) (checks : List NumberCheck) :
    ∀ {p : NumberPlan}, p.Ordered →
      (checks.foldl fold p).accepts n = (p.accepts n && checks.all fun c => c.holds n) := by
  -- plans change from check to check, with their ends staying numbers
  induction checks with
  | nil => exact fun _ => (Bool.and_true _).symm
  | cons c rest ih =>
    intro p hp
    rw [List.foldl_cons, ih (fold_ordered hp c), fold_accepts hp c hn, List.all_cons,
      Bool.and_assoc]

end NumberPlan

theorem isNone_find?_not {α : Type} (p : α → Bool) (l : List α) :
    (l.find? fun x => !p x).isNone = l.all p := by
  rw [Bool.eq_iff_iff, Option.isNone_iff_eq_none, List.find?_eq_none, List.all_eq_true]
  simp

/-- The plan of a number schema accepts what the schema accepts. -/
theorem NumberSchema.plan_accepts_eq (s : NumberSchema) (n : Double) :
    s.plan.accepts n = s.accepts (.number n) := by
  simp only [plan, accepts, firstFailure?]
  cases hn : n.isNaN with
  | true => simp [NumberPlan.accepts_eq, hn]
  | false =>
    rw [NumberPlan.foldl_accepts hn s.checks NumberPlan.start_ordered,
      NumberPlan.start_accepts hn, isNone_find?_not]
    rfl

/-! ## Texts -/

/-- A character has at least one byte. -/
theorem length_le_utf8ByteSize (s : String) : s.length ≤ s.utf8ByteSize := by
  have hbytes : s.utf8ByteSize = (s.toList.flatMap String.utf8EncodeChar).length := by
    rw [← String.size_toByteArray, ← String.utf8Encode_toList, List.utf8Encode,
      List.size_toByteArray]
  -- the encoding of a text is that of its characters one after the other
  have hlen : ∀ l : List Char, l.length ≤ (l.flatMap String.utf8EncodeChar).length := by
    intro l
    induction l with
    | nil => exact Nat.le_refl _
    | cons c rest ih =>
      have hc := c.utf8Size_pos
      rw [List.flatMap_cons, List.length_append, String.length_utf8EncodeChar, List.length_cons]
      omega
  rw [hbytes, ← String.length_toList]
  exact hlen _

namespace TextCheck

/-- A text passes a check, as a refused pattern lets nothing pass. -/
def passes (c : TextCheck) (limits : Limits) (s : String) : Bool :=
  match c.holds limits s with
  | .ok b => b
  | .error _ => false

end TextCheck

namespace TextPlan

/-- A size over a bound is over it for every greater size. -/
theorem exceeds_mono {m n : Nat} (hmn : m ≤ n) {bound : Option Nat}
    (h : exceeds m bound = true) : exceeds n bound = true := by
  cases bound with
  | none => exact h
  | some b =>
    simp only [exceeds, decide_eq_true_eq] at h ⊢
    omega

/-- The bytes of a text are only looked at to save counting its characters. -/
theorem accepts_eq (p : TextPlan) (s : String) :
    p.accepts s = (decide (p.minChars ≤ s.length) && !exceeds s.length p.maxChars
      && p.checks.all fun c => c.passes p.limits s) := by
  have hle := length_le_utf8ByteSize s
  show (if s.utf8ByteSize < p.minChars then false
    else if (decide (0 < p.minChars) || exceeds s.utf8ByteSize p.maxChars)
        && (decide (s.length < p.minChars) || exceeds s.length p.maxChars) then false
    else p.checks.all fun c => c.passes p.limits s) = _
  -- few bytes are few characters; otherwise the characters are counted where it matters
  by_cases hfew : s.utf8ByteSize < p.minChars
  · have hshort : ¬ p.minChars ≤ s.length := by omega
    rw [if_pos hfew, decide_eq_false hshort]
    rfl
  · rw [if_neg hfew]
    by_cases hmin : p.minChars ≤ s.length
    · have hmin' : ¬ s.length < p.minChars := by omega
      rw [decide_eq_true hmin, decide_eq_false hmin', Bool.false_or, Bool.true_and]
      cases hmax : exceeds s.length p.maxChars with
      | false => simp
      | true => simp [exceeds_mono hle hmax]
    · have hpos : 0 < p.minChars := by omega
      have hmin' : s.length < p.minChars := by omega
      rw [decide_eq_false hmin, decide_eq_true hmin', decide_eq_true hpos]
      rfl

theorem atLeast_accepts (p : TextPlan) (n : Nat) (s : String) :
    (p.atLeast n).accepts s = (p.accepts s && decide (n ≤ s.length)) := by
  have hmin : decide ((p.atLeast n).minChars ≤ s.length)
      = (decide (p.minChars ≤ s.length) && decide (n ≤ s.length)) := by
    rw [Bool.eq_iff_iff, decide_eq_true_eq, Bool.and_eq_true, decide_eq_true_eq,
      decide_eq_true_eq]
    show max p.minChars n ≤ s.length ↔ _
    omega
  rw [accepts_eq, accepts_eq, hmin]
  show (_ && !exceeds s.length p.maxChars && p.checks.all fun c => c.passes p.limits s) = _
  cases decide (n ≤ s.length) <;> simp

theorem atMost_accepts (p : TextPlan) (n : Nat) (s : String) :
    (p.atMost n).accepts s = (p.accepts s && decide (s.length ≤ n)) := by
  have hmax : (!exceeds s.length (p.atMost n).maxChars)
      = (!exceeds s.length p.maxChars && decide (s.length ≤ n)) := by
    simp only [atMost]
    rw [Bool.eq_iff_iff]
    -- without an earlier bound the new one stands alone
    cases p.maxChars with
    | none => simp [exceeds]
    | some m =>
      simp only [exceeds, Bool.not_eq_true', decide_eq_false_iff_not, Bool.and_eq_true,
        decide_eq_true_eq]
      omega
  rw [accepts_eq, accepts_eq, hmax]
  show (decide (p.minChars ≤ s.length) && _ && p.checks.all fun c => c.passes p.limits s) = _
  cases decide (s.length ≤ n) <;> simp

theorem fold_limits (p : TextPlan) (c : TextCheck) : (p.fold c).limits = p.limits := by
  cases c <;> rfl

/-- A check that is not about length is put behind the others. -/
theorem append_accepts (p : TextPlan) (c : TextCheck) (s : String) :
    TextPlan.accepts ⟨p.minChars, p.maxChars, p.checks ++ [c], p.limits⟩ s
      = (p.accepts s && c.passes p.limits s) := by
  rw [accepts_eq, accepts_eq]
  simp only [List.all_append, List.all_cons, List.all_nil, Bool.and_true, Bool.and_assoc]

/-- **Folding a check in demands what the check demands.** -/
theorem fold_accepts (p : TextPlan) (c : TextCheck) (s : String) :
    (p.fold c).accepts s = (p.accepts s && c.passes p.limits s) := by
  cases c with
  | min n => exact atLeast_accepts p n s
  | max n => exact atMost_accepts p n s
  | length n =>
    -- an exact length is a least and a greatest one
    have hboth : (TextCheck.length n).passes p.limits s
        = (decide (n ≤ s.length) && decide (s.length ≤ n)) := by
      rw [Bool.eq_iff_iff]
      simp only [TextCheck.passes, TextCheck.holds, beq_iff_eq, Bool.and_eq_true,
        decide_eq_true_eq]
      omega
    simp only [fold]
    rw [atMost_accepts, atLeast_accepts, hboth, Bool.and_assoc]
  | nonempty =>
    have hone : TextCheck.nonempty.passes p.limits s = decide (1 ≤ s.length) := by
      rw [Bool.eq_iff_iff]
      simp only [TextCheck.passes, TextCheck.holds, bne_iff_ne, decide_eq_true_eq]
      omega
    simp only [fold]
    rw [atLeast_accepts, hone]
  | _ => exact append_accepts p _ s

theorem foldl_accepts (s : String) (checks : List TextCheck) : ∀ p : TextPlan,
    (checks.foldl fold p).accepts s = (p.accepts s && checks.all fun c => c.passes p.limits s) := by
  induction checks with
  | nil => exact fun _ => (Bool.and_true _).symm
  | cons c rest ih =>
    intro p
    rw [List.foldl_cons, ih, fold_limits, fold_accepts, List.all_cons, Bool.and_assoc]

end TextPlan

namespace TextSchema

theorem failureAmong?_isNone (limits : Limits) (s : String) (checks : List TextCheck) :
    (failureAmong? limits s checks).isNone = checks.all fun c => c.passes limits s := by
  induction checks with
  | nil => rfl
  | cons c rest ih =>
    simp only [failureAmong?, List.all_cons, TextCheck.passes] at ih ⊢
    -- a refused pattern is a failure as much as a broken check
    cases hc : c.holds limits s with
    | error r => rfl
    | ok b =>
      cases b with
      | false => rfl
      | true => exact ih

/-- The plan of a text schema accepts what the schema accepts. -/
theorem plan_accepts_eq (t : TextSchema) (s : String) :
    t.plan.accepts s = t.accepts (.string s) := by
  have hstart : (TextPlan.start t.limits).accepts s = true := by
    rw [TextPlan.accepts_eq]
    simp [TextPlan.start, TextPlan.exceeds]
  simp only [plan, accepts, firstFailure?, TextPlan.foldl_accepts, hstart, failureAmong?_isNone,
    Bool.true_and]
  rfl

end TextSchema

end ValueSchema
