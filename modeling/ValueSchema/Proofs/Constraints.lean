/-
The order of constraints.

The constraints of a text, a number or a big integer are asked for one by one, and the first one
found violated is the one reported. A schema keeps its constraints sorted by their ranks as they
come, so of the violated ones it reports one of least rank, whatever the order in which they were
asked for. Ranks are coarse, though: among constraints of one rank the one asked for first is
reported. Big integers have no ranks at all, which is the case of one rank for everything.

So the order of asking shows in one way only. It never decides whether a value passes, nor the
rank of what is reported; it decides which of several violated constraints of the least rank is
reported, and as their issues differ, two orders agree exactly when they report one constraint.
-/
import Mathlib.Data.List.MinMax
import Mathlib.Data.List.Nodup
import ValueSchema.Proofs.Plans
import ValueSchema.Evaluation

set_option autoImplicit false

namespace ValueSchema

/-! ## What a list of constraints reports -/

section Reports

variable {α : Type} (rank : α → Nat) (violation? : α → Option Issue)

/-- The constraint that is reported when constraints are asked for in order: of the violated ones
the first among those of least rank. -/
def reported? (l : List α) : Option α :=
  (l.filter fun a => (violation? a).isSome).argmin rank

/-- A constraint is violated, and no violated one has a lesser rank. -/
structure LeadsIn (l : List α) (a : α) : Prop where
  mem : a ∈ l
  violated : (violation? a).isSome = true
  least : ∀ b ∈ l, (violation? b).isSome = true → rank a ≤ rank b

/-- No two violated constraints are tied for the least rank. -/
def Untied (l : List α) : Prop :=
  ∀ a b, LeadsIn rank violation? l a → LeadsIn rank violation? l b → a = b

variable {rank violation?}

theorem LeadsIn.perm {l m : List α} {a : α} (h : LeadsIn rank violation? l a) (hp : l.Perm m) :
    LeadsIn rank violation? m a :=
  ⟨hp.mem_iff.mp h.mem, h.violated, fun b hb => h.least b (hp.mem_iff.mpr hb)⟩

theorem LeadsIn.rank_eq {l : List α} {a b : α} (ha : LeadsIn rank violation? l a)
    (hb : LeadsIn rank violation? l b) : rank a = rank b :=
  Nat.le_antisymm (ha.least b hb.mem hb.violated) (hb.least a ha.mem ha.violated)

theorem leadsIn_of_reported? {l : List α} {a : α} (h : reported? rank violation? l = some a) :
    LeadsIn rank violation? l a := by
  obtain ⟨hmem, hviolated⟩ := List.mem_filter.mp (List.argmin_mem h)
  refine ⟨hmem, hviolated, fun b hb hbv => ?_⟩
  exact List.le_of_mem_argmin (List.mem_filter.mpr ⟨hb, hbv⟩) h

theorem reported?_eq_none_iff {l : List α} :
    reported? rank violation? l = none ↔ ∀ a ∈ l, violation? a = none := by
  rw [reported?, List.argmin_eq_none, List.filter_eq_nil_iff]
  simp only [Option.isSome_iff_ne_none, ne_eq, not_not]

/-- The order does not matter for whether something is reported. -/
theorem reported?_eq_none_perm {l m : List α} (hp : l.Perm m)
    (h : reported? rank violation? l = none) : reported? rank violation? m = none :=
  reported?_eq_none_iff.mpr fun a ha => reported?_eq_none_iff.mp h a (hp.mem_iff.mpr ha)

/-- The order does not matter for the rank of what is reported. -/
theorem rank_reported?_perm {l m : List α} (hp : l.Perm m) :
    (reported? rank violation? m).map rank = (reported? rank violation? l).map rank := by
  cases hl : reported? rank violation? l with
  | none => rw [reported?_eq_none_perm hp hl]
  | some a =>
    cases hm : reported? rank violation? m with
    | none =>
      rw [reported?_eq_none_perm hp.symm hm] at hl
      cases hl
    | some b =>
      have hb := (leadsIn_of_reported? hm).perm hp.symm
      rw [Option.map_some, Option.map_some, hb.rank_eq (leadsIn_of_reported? hl)]

/-- Of the violated constraints of least rank the one asked for first is reported. -/
theorem reported?_cons {l : List α} {a : α} (h : LeadsIn rank violation? (a :: l) a) :
    reported? rank violation? (a :: l) = some a := by
  have hkeep := List.filter_cons_of_pos (p := fun b => (violation? b).isSome) (l := l) h.violated
  rw [reported?, hkeep, List.argmin_cons]
  cases hl : (l.filter fun b => (violation? b).isSome).argmin rank with
  | none => rfl
  | some b =>
    obtain ⟨hb, hbv⟩ := List.mem_filter.mp (List.argmin_mem hl)
    have hle : ¬ rank b < rank a :=
      Nat.not_lt.mpr (h.least b (List.mem_cons_of_mem a hb) hbv)
    exact if_neg hle

/-- **Every order reports the same exactly when no two violated constraints are tied.** -/
theorem reported?_perm_iff_untied {l : List α} :
    (∀ m, l.Perm m → reported? rank violation? m = reported? rank violation? l)
      ↔ Untied rank violation? l := by
  constructor
  · intro hsame a b ha hb
    -- each of two leading constraints is reported once it is asked for first
    obtain ⟨s, t, rfl⟩ := List.append_of_mem ha.mem
    have hpa : (s ++ a :: t).Perm (a :: (s ++ t)) := List.perm_middle
    have hra := (hsame _ hpa).symm.trans (reported?_cons (ha.perm hpa))
    obtain ⟨u, w, huw⟩ := List.append_of_mem hb.mem
    have hpb : (s ++ a :: t).Perm (b :: (u ++ w)) := huw ▸ List.perm_middle
    have hrb := (hsame _ hpb).symm.trans (reported?_cons (hb.perm hpb))
    exact Option.some.inj (hra.symm.trans hrb)
  · intro huntied m hp
    cases hl : reported? rank violation? l with
    | none => exact reported?_eq_none_perm hp hl
    | some a =>
      cases hm : reported? rank violation? m with
      | none =>
        rw [reported?_eq_none_perm hp.symm hm] at hl
        cases hl
      | some b =>
        have hb := (leadsIn_of_reported? hm).perm hp.symm
        rw [huntied b a hb (leadsIn_of_reported? hl)]

end Reports

/-! ## Sorting constraints as they come -/

namespace Ranked

variable {α : Type}

/-- The running order of constraints that were asked for one after the other. -/
def sort (rank : α → Nat) (l : List α) : List α := l.foldl (fun sorted a => insert rank a sorted) []

theorem sort_concat (rank : α → Nat) (l : List α) (a : α) :
    sort rank (l ++ [a]) = insert rank a (sort rank l) := by
  simp [sort, List.foldl_append]

theorem pairwise_insert (rank : α → Nat) (a : α) {l : List α}
    (h : l.Pairwise fun b c => rank b ≤ rank c) :
    (insert rank a l).Pairwise fun b c => rank b ≤ rank c := by
  induction l with
  | nil => exact List.pairwise_singleton _ _
  | cons d rest ih =>
    obtain ⟨hd, hrest⟩ := List.pairwise_cons.mp h
    by_cases hlt : rank a < rank d
    · rw [insert, if_pos hlt]
      refine List.pairwise_cons.mpr ⟨fun b hb => ?_, h⟩
      rcases List.mem_cons.mp hb with rfl | hb
      · omega
      · have := hd b hb
        omega
    · rw [insert, if_neg hlt]
      refine List.pairwise_cons.mpr ⟨fun b hb => ?_, ih hrest⟩
      rcases (mem_insert rank a b rest).mp hb with rfl | hb
      · omega
      · exact hd b hb

theorem pairwise_sort (rank : α → Nat) (l : List α) :
    (sort rank l).Pairwise fun b c => rank b ≤ rank c := by
  induction l using List.reverseRecOn with
  | nil => exact List.Pairwise.nil
  | append_singleton l a ih =>
    rw [sort_concat]
    exact pairwise_insert rank a ih

/-- A new constraint comes first among those that match if it matches and runs before them. -/
theorem find?_insert (rank : α → Nat) (p : α → Bool) (a : α) {l : List α}
    (h : l.Pairwise fun b c => rank b ≤ rank c) :
    (insert rank a l).find? p
      = if p a then
          match l.find? p with
          | none => some a
          | some b => if rank a < rank b then some a else some b
        else l.find? p := by
  induction l with
  | nil => cases hp : p a <;> simp [insert, hp]
  | cons d rest ih =>
    obtain ⟨hd, hrest⟩ := List.pairwise_cons.mp h
    by_cases hlt : rank a < rank d
    · rw [insert, if_pos hlt]
      cases hp : p a with
      | false => simp [hp]
      | true =>
        -- whatever matches in the list runs after its head, and so after the new one
        have hafter (b : α) (hb : (d :: rest).find? p = some b) : rank a < rank b := by
          rcases List.mem_cons.mp (List.mem_of_find?_eq_some hb) with rfl | hb
          · exact hlt
          · exact Nat.lt_of_lt_of_le hlt (hd b hb)
        rw [List.find?_cons_of_pos hp, if_pos rfl]
        cases hfind : (d :: rest).find? p with
        | none => rfl
        | some b => exact (if_pos (hafter b hfind)).symm
    · rw [insert, if_neg hlt]
      cases hpd : p d with
      | false => simp only [List.find?_cons, hpd, ih hrest]
      | true => simp only [List.find?_cons, hpd, if_neg hlt, ite_self]

/-- **The first match in running order is the first one of least rank in the order of asking.** -/
theorem find?_sort (rank : α → Nat) (p : α → Bool) (l : List α) :
    (sort rank l).find? p = (l.filter p).argmin rank := by
  induction l using List.reverseRecOn with
  | nil => rfl
  | append_singleton l a ih =>
    rw [sort_concat, find?_insert rank p a (pairwise_sort rank l), ih, List.filter_append]
    cases hp : p a with
    | false => simp [hp]
    | true =>
      rw [List.filter_cons_of_pos hp, List.filter_nil, List.argmin_concat]
      cases (l.filter p).argmin rank <;> rfl

/-- Where all ranks are one, constraints run in the order of asking. -/
theorem sort_const (n : Nat) (l : List α) : sort (fun _ => n) l = l := by
  have hinsert (a : α) (sorted : List α) : insert (fun _ => n) a sorted = sorted ++ [a] := by
    induction sorted with
    | nil => rfl
    | cons d rest ih => rw [insert, if_neg (Nat.lt_irrefl n), ih, List.cons_append]
  induction l using List.reverseRecOn with
  | nil => rfl
  | append_singleton l a ih => rw [sort_concat, ih, hinsert]

end Ranked

/-- The first violated constraint in running order is the one that is reported. -/
theorem findSome?_sort {α : Type} (rank : α → Nat) (violation? : α → Option Issue) (l : List α) :
    (Ranked.sort rank l).findSome? violation? = (reported? rank violation? l).bind violation? := by
  rw [reported?, ← Ranked.find?_sort]
  generalize Ranked.sort rank l = sorted
  induction sorted with
  | nil => rfl
  | cons a rest ih =>
    rw [List.findSome?_cons, List.find?_cons]
    cases ha : violation? a with
    | none => exact ih
    | some i => exact ha.symm

/-- Where violation is failing a test, the first violated constraint is the first that fails. -/
theorem findSome?_failing {α β : Type} (holds : α → Bool) (issue : α → β) (l : List α) :
    (l.findSome? fun a => if holds a then none else some (issue a))
      = (l.find? fun a => !holds a).map issue := by
  induction l with
  | nil => rfl
  | cons a rest ih =>
    rw [List.findSome?_cons, List.find?_cons, ih]
    cases holds a <;> rfl

/-! ## Judgements that report one constraint -/

section Judgements

variable {α : Type} {rank : α → Nat} {violation? : α → Option Issue}

/-- What a schema with constraints answers: the issue of the first violated one in running order,
or else the answer of the schema without constraints. -/
def Ranked.verdict (rank : α → Nat) (violation? : α → Option Issue) (unconstrained : Verdict)
    (l : List α) : Verdict :=
  match (Ranked.sort rank l).findSome? violation? with
  | some i => Verdict.reject i
  | none => unconstrained

theorem Ranked.verdict_of_reported (unconstrained : Verdict) {l : List α} {a : α}
    (h : reported? rank violation? l = some a) :
    ∃ i, violation? a = some i
      ∧ Ranked.verdict rank violation? unconstrained l = Verdict.reject i := by
  obtain ⟨i, hi⟩ := Option.isSome_iff_exists.mp (leadsIn_of_reported? h).violated
  refine ⟨i, hi, ?_⟩
  rw [Ranked.verdict, findSome?_sort, h, Option.bind_some, hi]

theorem Ranked.verdict_of_none {unconstrained : Verdict} {l : List α}
    (h : reported? rank violation? l = none) :
    Ranked.verdict rank violation? unconstrained l = unconstrained := by
  rw [Ranked.verdict, findSome?_sort, h, Option.bind_none]

/-- A value without violations is answered for as if there were no constraints. -/
theorem Ranked.verdict_of_unviolated {unconstrained : Verdict} {l : List α}
    (h : ∀ a ∈ l, violation? a = none) :
    Ranked.verdict rank violation? unconstrained l = unconstrained :=
  Ranked.verdict_of_none (reported?_eq_none_iff.mpr h)

variable (rank violation?) in
/-- How the judgement of one value depends on the order of the constraints `l`: it does so only
where violated constraints are tied for the least rank. -/
structure OrderedUpToTies (judge : List α → Option Verdict) (l : List α) : Prop where
  /-- A rejection has one issue, that of one violated constraint of least rank. -/
  reports : ∀ m, l.Perm m → ∀ a, reported? rank violation? m = some a →
    ∃ i, violation? a = some i ∧ judge m = some (Verdict.reject i)
  /-- Without a violated constraint every order has the same answer. -/
  passes : ∀ m, l.Perm m → reported? rank violation? m = none → judge m = judge l
  /-- Every order reports a constraint of one and the same rank. -/
  rank_eq : ∀ m, l.Perm m →
    (reported? rank violation? m).map rank = (reported? rank violation? l).map rank
  /-- Two orders agree exactly if they report one constraint. -/
  agree_iff : ∀ m, l.Perm m →
    (judge m = judge l ↔ reported? rank violation? m = reported? rank violation? l)
  /-- All orders agree exactly if no two violated constraints are tied. -/
  always_iff : (∀ m, l.Perm m → judge m = judge l) ↔ Untied rank violation? l

/-- Two orders with one verdict report one constraint, as tied constraints have issues of their
own. -/
theorem reported?_eq_of_verdict {unconstrained : Verdict} {l m : List α} (hp : l.Perm m)
    (hinj : ∀ a ∈ l, ∀ b ∈ l, rank a = rank b → (violation? a).isSome = true →
      violation? a = violation? b → a = b)
    (h : Ranked.verdict rank violation? unconstrained m
      = Ranked.verdict rank violation? unconstrained l) :
    reported? rank violation? m = reported? rank violation? l := by
  cases hl : reported? rank violation? l with
  | none => exact reported?_eq_none_perm hp hl
  | some a =>
    cases hm : reported? rank violation? m with
    | none =>
      rw [reported?_eq_none_perm hp.symm hm] at hl
      cases hl
    | some b =>
      have ha := leadsIn_of_reported? hl
      have hb := (leadsIn_of_reported? hm).perm hp.symm
      obtain ⟨i, hi, hvi⟩ := Ranked.verdict_of_reported unconstrained hl
      obtain ⟨j, hj, hvj⟩ := Ranked.verdict_of_reported unconstrained hm
      have hissue : j = i := by
        rw [hvi, hvj] at h
        injection h with h
        injection h
      rw [hinj b hb.mem a ha.mem (hb.rank_eq ha) hb.violated (by rw [hi, hj, hissue])]

/-- **Sorted constraints are ordered up to ties**, as long as tied constraints have issues of
their own. -/
theorem OrderedUpToTies.of_verdict {judge : List α → Option Verdict} {unconstrained : Verdict}
    {l : List α}
    (hjudge : ∀ m, judge m = some (Ranked.verdict rank violation? unconstrained m))
    (hinj : ∀ a ∈ l, ∀ b ∈ l, rank a = rank b → (violation? a).isSome = true →
      violation? a = violation? b → a = b) :
    OrderedUpToTies rank violation? judge l := by
  have hagree (m : List α) (hp : l.Perm m) : judge m = judge l
      ↔ reported? rank violation? m = reported? rank violation? l := by
    rw [hjudge m, hjudge l, Option.some.injEq]
    refine ⟨reported?_eq_of_verdict hp hinj, fun h => ?_⟩
    rw [Ranked.verdict, Ranked.verdict, findSome?_sort, findSome?_sort, h]
  refine ⟨fun m _ a ha => ?_, fun m hp hm => ?_, fun m hp => rank_reported?_perm hp, hagree, ?_⟩
  · obtain ⟨i, hi, hv⟩ := Ranked.verdict_of_reported unconstrained ha
    exact ⟨i, hi, by rw [hjudge, hv]⟩
  · rw [hagree m hp, hm, reported?_eq_none_perm hp.symm hm]
  · rw [← reported?_perm_iff_untied]
    exact forall₂_congr hagree

end Judgements

/-! ## Texts -/

namespace TextCheck

/-- The issue of a value that a check does not let pass, that of the refusal if a pattern is not
run. Only texts are checked. -/
def violation? (limits : Limits) (c : Context) (v : Value) (k : TextCheck) : Option Issue :=
  match v with
  | .string s =>
    match k.holds limits s with
    | .ok true => none
    | .ok false => some (k.issue c s)
    | .error r => some (r.issue c)
  | _ => none

/-- The builder behind a check, read off its issue. -/
def told (i : Issue) : Option Nat :=
  match i.code with
  | .stringTooShort => some (if i.details.isEmpty then 3 else 0)
  | .stringTooLong => some 1
  | .stringInvalidLength => some 2
  | .stringPatternMismatch => some 4
  | .stringInvalidPrefix => some 5
  | .stringInvalidSuffix => some 6
  | .stringMissingSubstring => some 7
  | .invalidEmail => some 8
  | .invalidUrl => some 9
  | .invalidUuid => some 10
  | .invalidDatetime => some 11
  | _ => none

theorem told_issue (k : TextCheck) (c : Context) (s : String) :
    told (k.issue c s) = some k.ctorIdx := by
  cases k <;> rfl

/-- Only a pattern may be refused. -/
theorem holds_eq_ok {k : TextCheck} (h : k.rank ≠ 1) (limits : Limits) (s : String) :
    ∃ b, k.holds limits s = .ok b := by
  cases k with
  | pattern p => exact absurd rfl h
  | _ => exact ⟨_, rfl⟩

theorem violation?_eq_issue {k : TextCheck} (h : k.rank ≠ 1) {limits : Limits} {c : Context}
    {s : String} {i : Issue} (hi : k.violation? limits c (.string s) = some i) :
    i = k.issue c s := by
  obtain ⟨b, hb⟩ := holds_eq_ok h limits s
  simp only [violation?, hb] at hi
  cases b with
  | true => cases hi
  | false => exact (Option.some.inj hi).symm

/-- Tied checks with one issue come from one builder. -/
theorem ctorIdx_eq_of_violation? {limits : Limits} {c : Context} {v : Value} {a b : TextCheck}
    (hrank : a.rank = b.rank) (hsome : (a.violation? limits c v).isSome = true)
    (h : a.violation? limits c v = b.violation? limits c v) : a.ctorIdx = b.ctorIdx := by
  obtain ⟨i, hi⟩ := Option.isSome_iff_exists.mp hsome
  cases v with
  | string s =>
    by_cases hone : a.rank = 1
    · -- patterns are alone in their rank
      have hpattern {k : TextCheck} (hk : k.rank = 1) : k.ctorIdx = 4 := by
        cases k with
        | pattern p => rfl
        | _ => cases hk
      rw [hpattern hone, hpattern (hrank.symm.trans hone)]
    · have ha := violation?_eq_issue hone hi
      have hb := violation?_eq_issue (hrank ▸ hone) (h.symm.trans hi)
      have htold : some a.ctorIdx = some b.ctorIdx := by
        rw [← told_issue a c s, ← ha, hb, told_issue]
      exact Option.some.inj htold
  | _ => cases hi

end TextCheck

namespace TextSchema

/-- The schema with constraints asked for one after the other. -/
def ofChecks (transforms : List TextTransform) (limits : Limits) (l : List TextCheck) :
    TextSchema :=
  l.foldl check ⟨[], transforms, limits⟩

theorem ofChecks_eq (transforms : List TextTransform) (limits : Limits) (l : List TextCheck) :
    ofChecks transforms limits l = ⟨Ranked.sort TextCheck.rank l, transforms, limits⟩ := by
  induction l using List.reverseRecOn with
  | nil => rfl
  | append_singleton l a ih =>
    rw [ofChecks, List.foldl_append, ← ofChecks, ih, Ranked.sort_concat]
    rfl

/-- The first failure among checks is the first violated one. -/
theorem failureAmong?_issue (limits : Limits) (c : Context) (s : String) (l : List TextCheck) :
    (failureAmong? limits s l).map
        (fun | .check k => k.issue c s | .refused r => r.issue c)
      = l.findSome? (TextCheck.violation? limits c (.string s)) := by
  induction l with
  | nil => rfl
  | cons k rest ih =>
    rw [List.findSome?_cons, failureAmong?, TextCheck.violation?]
    cases k.holds limits s with
    | error r => rfl
    | ok b =>
      cases b with
      | false => rfl
      | true => exact ih

theorem run_ofChecks (transforms : List TextTransform) (limits : Limits) (l : List TextCheck)
    (c : Context) (v : Value) :
    (ofChecks transforms limits l).run c v
      = Ranked.verdict TextCheck.rank (TextCheck.violation? limits c v)
          ((ofChecks transforms limits []).run c v) l := by
  rw [ofChecks_eq]
  cases v with
  | string s =>
    rw [Ranked.verdict, ← failureAmong?_issue]
    simp only [run, firstFailure?]
    cases failureAmong? limits s (Ranked.sort TextCheck.rank l) with
    | none => rfl
    | some failure => cases failure <;> rfl
  | _ => exact (Ranked.verdict_of_unviolated fun _ _ => rfl).symm

end TextSchema

/-! ## Numbers -/

namespace NumberCheck

/-- The issue of a number that a check does not let pass. NaN is no number. -/
def violation? (c : Context) (v : Value) (k : NumberCheck) : Option Issue :=
  match v with
  | .number n => if n.isNaN then none else if k.holds n then none else some (k.issue c n)
  | _ => none

/-- The check that an issue reports. -/
def told (i : Issue) : Option NumberCheck :=
  match i.code, i.details with
  | .numberNotFinite, _ => some finite
  | .numberNotInteger, _ => some int
  | .numberNotSafe, _ => some safe
  | .numberTooSmall, [(_, .number bound), (_, .bool inclusive)] => some (min bound inclusive)
  | .numberTooBig, [(_, .number bound), (_, .bool inclusive)] => some (max bound inclusive)
  | .numberNotPositive, _ => some positive
  | .numberNotNegative, _ => some negative
  | .numberNotMultiple, [(_, .number step)] => some (multipleOf step)
  | _, _ => none

theorem told_issue (k : NumberCheck) (c : Context) (n : Double) :
    told (k.issue c n) = some k := by
  cases k <;> rfl

theorem told_violation? {c : Context} {v : Value} {k : NumberCheck} {i : Issue}
    (h : k.violation? c v = some i) : told i = some k := by
  cases v with
  | number n =>
    simp only [violation?] at h
    split at h
    · cases h
    · split at h
      · cases h
      · rw [← Option.some.inj h, told_issue]
  | _ => cases h

end NumberCheck

namespace NumberSchema

/-- The schema with constraints asked for one after the other. -/
def ofChecks (l : List NumberCheck) : NumberSchema := l.foldl check any

theorem ofChecks_eq (l : List NumberCheck) : ofChecks l = ⟨Ranked.sort NumberCheck.rank l⟩ := by
  induction l using List.reverseRecOn with
  | nil => rfl
  | append_singleton l a ih =>
    rw [ofChecks, List.foldl_append, ← ofChecks, ih, Ranked.sort_concat]
    rfl

theorem run_ofChecks (l : List NumberCheck) (c : Context) (v : Value) :
    (ofChecks l).run c v
      = Ranked.verdict NumberCheck.rank (NumberCheck.violation? c v) (any.run c v) l := by
  rw [ofChecks_eq]
  cases v with
  | number n =>
    cases hn : n.isNaN with
    | true =>
      have hnone (k : NumberCheck) : k.violation? c (.number n) = none := by
        rw [NumberCheck.violation?, if_pos hn]
      rw [Ranked.verdict_of_unviolated fun k _ => hnone k]
      simp only [run, if_pos hn]
    | false =>
      have hfails (k : NumberCheck) : k.violation? c (.number n)
          = if k.holds n then none else some (k.issue c n) := by
        rw [NumberCheck.violation?, if_neg (Bool.eq_false_iff.mp hn)]
      rw [Ranked.verdict, funext hfails, findSome?_failing]
      simp only [run, firstFailure?, if_neg (Bool.eq_false_iff.mp hn)]
      cases (Ranked.sort NumberCheck.rank l).find? fun k => !k.holds n <;> rfl
  | _ => exact (Ranked.verdict_of_unviolated fun _ _ => rfl).symm

end NumberSchema

/-! ## Big integers -/

namespace IntegerCheck

/-- Big integers are checked in the order of asking, as if all ranks were one. -/
def rank (_ : IntegerCheck) : Nat := 0

/-- The issue of a big integer that a check does not let pass. -/
def violation? (c : Context) (v : Value) (k : IntegerCheck) : Option Issue :=
  match v with
  | .bigint n => if k.holds n then none else some (k.issue c n)
  | _ => none

/-- The check that an issue reports: a bound stands in the details. -/
def told (i : Issue) : Option IntegerCheck :=
  match i.code, i.details with
  | .bigIntTooSmall, [(_, .bigint bound)] => some (min bound)
  | .bigIntTooBig, [(_, .bigint bound)] => some (max bound)
  | .bigIntTooSmall, _ => some positive
  | .bigIntTooBig, _ => some negative
  | _, _ => none

theorem told_issue (k : IntegerCheck) (c : Context) (n : Int) : told (k.issue c n) = some k := by
  cases k <;> rfl

theorem told_violation? {c : Context} {v : Value} {k : IntegerCheck} {i : Issue}
    (h : k.violation? c v = some i) : told i = some k := by
  cases v with
  | bigint n =>
    simp only [violation?] at h
    split at h
    · cases h
    · rw [← Option.some.inj h, told_issue]
  | _ => cases h

end IntegerCheck

namespace IntegerSchema

/-- The schema with constraints asked for one after the other. -/
def ofChecks (l : List IntegerCheck) : IntegerSchema := l.foldl check any

theorem ofChecks_eq (l : List IntegerCheck) : ofChecks l = ⟨l⟩ := by
  induction l using List.reverseRecOn with
  | nil => rfl
  | append_singleton l a ih =>
    rw [ofChecks, List.foldl_append, ← ofChecks, ih]
    rfl

theorem run_ofChecks (l : List IntegerCheck) (c : Context) (v : Value) :
    (ofChecks l).run c v
      = Ranked.verdict IntegerCheck.rank (IntegerCheck.violation? c v) (any.run c v) l := by
  have hsort : Ranked.sort IntegerCheck.rank l = l := Ranked.sort_const 0 l
  rw [ofChecks_eq]
  cases v with
  | bigint n =>
    have hfails : IntegerCheck.violation? c (.bigint n)
        = fun k => if k.holds n then none else some (k.issue c n) := rfl
    rw [Ranked.verdict, hsort, hfails, findSome?_failing]
    simp only [run, firstFailure?]
    cases l.find? fun k => !k.holds n <;> rfl
  | _ => exact (Ranked.verdict_of_unviolated fun _ _ => rfl).symm

end IntegerSchema

/-! ## All three -/

/-- **Constraints run in a fixed order, up to ties.** For texts, numbers and big integers alike:
whatever the order in which constraints are asked for, a value passes with one output or is
rejected with one issue about a violated constraint of one and the same least rank. Two orders
agree exactly if they report one constraint, and all orders agree exactly if no two violated
constraints are tied for the least rank. Builders of texts are used once each, as two patterns
may be refused alike. -/
theorem Schema.constraints_ordered_up_to_ties (family : Family) (v : Value) (c : Context) :
    (∀ (transforms : List TextTransform) (limits : Limits) (l : List TextCheck),
      (l.map TextCheck.ctorIdx).Nodup →
      OrderedUpToTies TextCheck.rank (TextCheck.violation? limits c v)
        (fun m => (Schema.text (.ofChecks transforms limits m)).validateIn family v c) l)
    ∧ (∀ l : List NumberCheck,
      OrderedUpToTies NumberCheck.rank (NumberCheck.violation? c v)
        (fun m => (Schema.number (.ofChecks m)).validateIn family v c) l)
    ∧ (∀ l : List IntegerCheck,
      OrderedUpToTies IntegerCheck.rank (IntegerCheck.violation? c v)
        (fun m => (Schema.integer (.ofChecks m)).validateIn family v c) l) := by
  refine ⟨fun transforms limits l hnodup => ?_, fun l => ?_, fun l => ?_⟩
  · refine OrderedUpToTies.of_verdict
      (fun m => congrArg some (TextSchema.run_ofChecks transforms limits m c v)) ?_
    intro a ha b hb hrank hsome h
    exact List.inj_on_of_nodup_map hnodup ha hb (TextCheck.ctorIdx_eq_of_violation? hrank hsome h)
  · refine OrderedUpToTies.of_verdict
      (fun m => congrArg some (NumberSchema.run_ofChecks m c v)) ?_
    intro a _ b _ _ hsome h
    obtain ⟨i, hi⟩ := Option.isSome_iff_exists.mp hsome
    have ha := NumberCheck.told_violation? hi
    exact Option.some.inj (ha.symm.trans (NumberCheck.told_violation? (h.symm.trans hi)))
  · refine OrderedUpToTies.of_verdict
      (fun m => congrArg some (IntegerSchema.run_ofChecks m c v)) ?_
    intro a _ b _ _ hsome h
    obtain ⟨i, hi⟩ := Option.isSome_iff_exists.mp hsome
    have ha := IntegerCheck.told_violation? hi
    exact Option.some.inj (ha.symm.trans (IntegerCheck.told_violation? (h.symm.trans hi)))

/-- A text that is one character long, against a minimum and an exact length of which both are
asked for once. -/
theorem Schema.short_text_ordered_up_to_ties :
    ([TextCheck.min 3, .length 5].map TextCheck.ctorIdx).Nodup
    ∧ OrderedUpToTies TextCheck.rank
        (TextCheck.violation? Limits.standard Context.root (.string "a"))
        (fun m => (Schema.text (.ofChecks [] Limits.standard m)).validateIn [] (.string "a")
          Context.root) [.min 3, .length 5] := by
  have hnodup : ([TextCheck.min 3, .length 5].map TextCheck.ctorIdx).Nodup := by decide
  exact ⟨hnodup, (Schema.constraints_ordered_up_to_ties [] (.string "a") Context.root).1 []
    Limits.standard [.min 3, .length 5] hnodup⟩

/-- The codes of what a schema reports of a value. -/
def Schema.codesOn (schema : Schema) (v : Value) : Option (List Code) :=
  (schema.validateIn [] v Context.root).map fun verdict => verdict.issues.map Issue.code

/-- In ties the order of asking shows, for each of the three kinds. -/
theorem Schema.order_of_asking_shows :
    (Schema.text (.ofChecks [] Limits.standard [.min 3, .length 5])).codesOn (.string "a")
        = some [.stringTooShort]
    ∧ (Schema.text (.ofChecks [] Limits.standard [.length 5, .min 3])).codesOn (.string "a")
        = some [.stringInvalidLength]
    ∧ (Schema.number (.ofChecks [.positive, .negative])).codesOn (.number Double.zero)
        = some [.numberNotPositive]
    ∧ (Schema.number (.ofChecks [.negative, .positive])).codesOn (.number Double.zero)
        = some [.numberNotNegative]
    ∧ (Schema.integer (.ofChecks [.positive, .max (-5)])).codesOn (.bigint 0)
        = some [.bigIntTooSmall]
    ∧ (Schema.integer (.ofChecks [.max (-5), .positive])).codesOn (.bigint 0)
        = some [.bigIntTooBig] := by
  refine ⟨?_, ?_, ?_, ?_, ?_, ?_⟩ <;> decide

end ValueSchema
