/-
Orders of recency under a bound.

What a bound cuts off a recency order stands behind everything it leaves. So a look-up finds an
entry within the bound exactly if fewer entries than that stand before it, and to write or to use an
entry within the bound comes to the same whether the bound is kept all along or applied at the end.
-/
import ValueSchema.Proofs.Caching.Histories
import Mathlib.Data.List.Nodup

set_option autoImplicit false

namespace ValueSchema.Recency

variable {κ ν μ : Type} {key : κ} {v : ν} {l : List (κ × ν)}

/-- The same keys with other values. -/
def mapValues (f : ν → μ) (l : List (κ × ν)) : List (κ × μ) := l.map fun e => (e.1, f e.2)

/-- The keys of the entries. -/
def keys (l : List (κ × ν)) : List κ := l.map Prod.fst

theorem fit_mapValues (f : ν → μ) (capacity : Option Nat) (l : List (κ × ν)) :
    fit capacity (mapValues f l) = mapValues f (fit capacity l) := by
  cases capacity with
  | none => rfl
  | some n => exact List.map_take.symm

variable [DecidableEq κ]

/-! ## Finding and removing -/

theorem find?_cons (e : κ × ν) (l : List (κ × ν)) :
    find? key (e :: l) = if e.1 = key then some e.2 else find? key l := by
  unfold find?
  by_cases h : e.1 = key
  · rw [List.find?_cons_of_pos (by simpa using h), if_pos h]
    rfl
  · rw [List.find?_cons_of_neg (by simpa using h), if_neg h]

theorem remove_cons (e : κ × ν) (l : List (κ × ν)) :
    remove key (e :: l) = if e.1 = key then remove key l else e :: remove key l := by
  unfold remove
  rw [List.filter_cons]
  by_cases h : e.1 = key <;> simp [h]

theorem find?_mapValues (f : ν → μ) (l : List (κ × ν)) :
    find? key (mapValues f l) = (find? key l).map f := by
  induction l with
  | nil => rfl
  | cons e rest ih =>
    have hrest : mapValues f (e :: rest) = (e.1, f e.2) :: mapValues f rest := rfl
    rw [hrest, find?_cons, find?_cons, ih]
    by_cases h : e.1 = key
    · rw [if_pos h, if_pos h]
      rfl
    · rw [if_neg h, if_neg h]

theorem remove_mapValues (f : ν → μ) (l : List (κ × ν)) :
    remove key (mapValues f l) = mapValues f (remove key l) := by
  unfold remove mapValues
  rw [List.filter_map]
  rfl

theorem write_mapValues (f : ν → μ) (capacity : Option Nat) (l : List (κ × ν)) :
    mapValues f (write capacity key v l) = write capacity key (f v) (mapValues f l) := by
  unfold write
  rw [remove_mapValues, ← fit_mapValues]
  rfl

theorem promote_mapValues (f : ν → μ) (l : List (κ × ν)) :
    promote key (mapValues f l) = mapValues f (promote key l) := by
  unfold promote
  rw [find?_mapValues]
  cases find? key l with
  | none => rfl
  | some v =>
    rw [Option.map_some, remove_mapValues]
    rfl

/-- A use changes the order only. -/
theorem find?_promote (k : κ) (l : List (κ × ν)) : find? key (promote k l) = find? key l := by
  unfold promote
  cases hfind : find? k l with
  | none => rfl
  | some v =>
    rw [find?_cons, find?_remove]
    by_cases h : k = key
    · rw [if_pos h, ← h, hfind]
    · rw [if_neg h, if_neg fun hk => h hk.symm]

theorem keys_remove (key : κ) (l : List (κ × ν)) :
    keys (remove key l) = (keys l).filter fun k => decide (k ≠ key) := by
  unfold keys remove
  rw [List.filter_map]
  congr 1
  refine List.filter_congr fun e _ => ?_
  rw [Function.comp_apply, decide_not]

theorem remove_of_not_mem (h : key ∉ keys l) : remove key l = l := by
  unfold remove
  refine List.filter_eq_self.mpr fun e he => ?_
  have hne : e.1 ≠ key := fun hk => h (hk ▸ List.mem_map_of_mem he)
  simpa using hne

/-- Writing one entry puts no key in twice. -/
theorem nodup_cons_remove (h : (keys l).Nodup) (key : κ) (v : ν) :
    (keys ((key, v) :: remove key l)).Nodup := by
  have hrest : keys ((key, v) :: remove key l) = key :: keys (remove key l) := rfl
  rw [hrest, keys_remove, List.nodup_cons]
  refine ⟨fun hmem => ?_, h.filter _⟩
  simpa using (List.mem_filter.mp hmem).2

/-! ## Entries within the bound -/

/-- An entry is within the bound if fewer entries than that stand before it. -/
theorem find?_take (n : Nat) (l : List (κ × ν)) :
    find? key (l.take n) = some v
      ↔ find? key l = some v ∧ ((keys l).takeWhile fun k => decide (k ≠ key)).length < n := by
  induction l generalizing n with
  | nil => simp [find?]
  | cons e rest ih =>
    have hkeys : keys (e :: rest) = e.1 :: keys rest := rfl
    cases n with
    | zero => simp [find?]
    | succ n =>
      rw [List.take_succ_cons, find?_cons, find?_cons, hkeys]
      by_cases h : e.1 = key
      · rw [if_pos h, if_pos h, List.takeWhile_cons_of_neg (by simpa using h)]
        exact ⟨fun hv => ⟨hv, Nat.succ_pos n⟩, fun hv => hv.1⟩
      · rw [if_neg h, if_neg h, List.takeWhile_cons_of_pos (by simpa using h), ih n,
          List.length_cons, Nat.succ_lt_succ_iff]

/-- Once a key is taken out, one place of a bounded order is free, and what moves up into it does
not show before. -/
theorem take_remove (key : κ) (h : (keys l).Nodup) (n : Nat) :
    (remove key (l.take (n + 1))).take n = (remove key l).take n := by
  induction l generalizing n with
  | nil => rfl
  | cons e rest ih =>
    have hkeys : keys (e :: rest) = e.1 :: keys rest := rfl
    rw [hkeys, List.nodup_cons] at h
    rw [List.take_succ_cons, remove_cons, remove_cons]
    by_cases hkey : e.1 = key
    · -- the key is in front, so it is nowhere behind
      have hrest : remove key rest = rest := remove_of_not_mem (hkey ▸ h.1)
      have htake : remove key (rest.take n) = rest.take n := by
        refine remove_of_not_mem fun hmem => h.1 (hkey ▸ ?_)
        unfold keys at hmem ⊢
        rw [List.map_take] at hmem
        exact List.mem_of_mem_take hmem
      rw [if_pos hkey, if_pos hkey, hrest, htake, List.take_take, Nat.min_self]
    · rw [if_neg hkey, if_neg hkey]
      cases n with
      | zero => rfl
      | succ n => rw [List.take_succ_cons, List.take_succ_cons, ih h.2 n]

/-- A write into what fits is a write into everything, cut off afterwards. -/
theorem write_fit (h : (keys l).Nodup) {capacity : Option Nat} (hpos : capacity ≠ some 0)
    (key : κ) (v : ν) :
    write capacity key v (fit capacity l) = fit capacity ((key, v) :: remove key l) := by
  unfold write
  cases capacity with
  | none => rfl
  | some n =>
    obtain ⟨m, rfl⟩ := Nat.exists_eq_succ_of_ne_zero fun h0 => hpos (congrArg some h0)
    have htake := take_remove key h m
    simp only [fit, Nat.succ_eq_add_one, List.take_succ_cons, htake]

/-- An entry within the bound is moved to the front of what fits as it is of everything. -/
theorem promote_fit (h : (keys l).Nodup) {capacity : Option Nat}
    (hfind : find? key (fit capacity l) = some v) :
    promote key (fit capacity l) = fit capacity (promote key l) := by
  cases capacity with
  | none => rfl
  | some n =>
    have hboth : find? key (l.take n) = some v := hfind
    have hall := ((find?_take n l).mp hboth).1
    have hpos : n ≠ 0 := fun h0 => Nat.not_lt_zero _ (h0 ▸ ((find?_take n l).mp hboth).2)
    obtain ⟨m, rfl⟩ := Nat.exists_eq_succ_of_ne_zero hpos
    have htake := take_remove key h m
    -- the key is among those that fit, so without it there is room for all the others
    have hlt : (remove key (l.take (m + 1))).length < (l.take (m + 1)).length := by
      unfold remove
      refine List.length_filter_lt_length_iff_exists.mpr ⟨(key, v), mem_of_find? hboth, ?_⟩
      simp
    have hlen : (remove key (l.take (m + 1))).length ≤ m := by
      have hmax := List.length_take_le (m + 1) l
      omega
    rw [List.take_of_length_le hlen] at htake
    simp only [promote, fit, Nat.succ_eq_add_one] at hboth ⊢
    rw [hboth, hall]
    simp only [List.take_succ_cons, htake]

end ValueSchema.Recency
