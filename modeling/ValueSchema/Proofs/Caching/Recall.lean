/-
What a bounded cache still knows.

A cache that tells containers apart by identity and lets nothing grow old forgets for want of room
only. Which key it has forgotten can be read off the uses since the last clearing, without looking
at the cache: a key is remembered as long as fewer other keys were stored or hit since its own last
use than entries fit. The ledger below applies this rule to a run and never holds more than what was
used, so it also foretells the counters.

The proof goes through the keys in the order of their last use, all of them, as an unbounded cache
would hold them. The entries that are present are the first so many of these: a store puts its key
in front and pushes out what has come to stand behind the bound, a hit moves a key that stands
within the bound to the front, and a miss changes nothing. In that order a key stands behind exactly
the other keys that were used since.
-/
import ValueSchema.Proofs.Caching.Orders
import Mathlib.Data.Finset.Card

set_option autoImplicit false

namespace ValueSchema

/-! ## The rule -/

/-- One use of a key: something was stored under it, or it was looked up and found. -/
inductive CacheUse
  | stored (key : CacheKey) (verdict : Verdict)
  | hit (key : CacheKey)

def CacheUse.key : CacheUse → CacheKey
  | stored key _ => key
  | hit key => key

/-- What a use stores under a key. -/
def CacheUse.verdict? (key : CacheKey) : CacheUse → Option Verdict
  | stored k verdict => if k = key then some verdict else none
  | hit _ => none

/-- The uses since the last clearing, the most recent one first, and the look-ups since then. -/
structure CacheLedger where
  uses : List CacheUse
  hits : Nat
  misses : Nat

namespace CacheLedger

def empty : CacheLedger := ⟨[], 0, 0⟩

/-- The last thing stored under a key since the last clearing. -/
def lastStored? (l : CacheLedger) (key : CacheKey) : Option Verdict :=
  l.uses.findSome? (CacheUse.verdict? key)

/-- How many distinct other keys were stored or hit since a key itself was. -/
def othersSince (l : CacheLedger) (key : CacheKey) : Nat :=
  ((l.uses.map CacheUse.key).takeWhile fun k => decide (k ≠ key)).toFinset.card

/-- Fewer other keys were used since a key itself was than entries fit; one entry always fits. -/
def Reaches (l : CacheLedger) (maxSize : Option Nat) (key : CacheKey) : Prop :=
  ∀ n, maxSize = some n → l.othersSince key < max n 1

instance (l : CacheLedger) (maxSize : Option Nat) (key : CacheKey) :
    Decidable (l.Reaches maxSize key) :=
  match maxSize with
  | none => isTrue fun _ h => nomatch h
  | some n => decidable_of_iff (l.othersSince key < max n 1)
      ⟨fun h _ hn => Option.some.inj hn ▸ h, fun h => h n rfl⟩

/-- What a look-up of a key gives out. -/
def remembered? (l : CacheLedger) (maxSize : Option Nat) (key : CacheKey) : Option Verdict :=
  if l.Reaches maxSize key then l.lastStored? key else none

def store (l : CacheLedger) (key : CacheKey) (verdict : Verdict) : CacheLedger :=
  ⟨.stored key verdict :: l.uses, l.hits, l.misses⟩

/-- A look-up is counted, and a hit is a use. -/
def lookUp (l : CacheLedger) (maxSize : Option Nat) (key : CacheKey) : CacheLedger :=
  match l.remembered? maxSize key with
  | some _ => ⟨.hit key :: l.uses, l.hits + 1, l.misses⟩
  | none => ⟨l.uses, l.hits, l.misses + 1⟩

/-- The ledger after a step. Nothing grows old, so there is nothing to purge. -/
def step (maxSize : Option Nat) (keyOf : Value → String → CacheKey) (l : CacheLedger) :
    CacheStep → CacheLedger
  | .set _ v schemaId verdict => l.store (keyOf v schemaId) verdict
  | .get _ v schemaId => l.lookUp maxSize (keyOf v schemaId)
  | .getOrJudge _ v schemaId judge =>
    match l.remembered? maxSize (keyOf v schemaId), judge v with
    | none, some verdict =>
      (l.lookUp maxSize (keyOf v schemaId)).store (keyOf v schemaId) verdict
    | _, _ => l.lookUp maxSize (keyOf v schemaId)
  | .clear => empty
  | .purgeExpired _ => l

/-- The ledger after a run. -/
def run (maxSize : Option Nat) (keyOf : Value → String → CacheKey) (l : CacheLedger)
    (steps : List CacheStep) : CacheLedger :=
  steps.foldl (step maxSize keyOf) l

end CacheLedger

/-! ## Keys in the order of their last use -/

namespace CacheUse

open Recency (keys)

/-- What an unbounded cache holds after some uses, the most recent one first. -/
def order : List CacheUse → List (CacheKey × Verdict)
  | [] => []
  | .stored key verdict :: rest => (key, verdict) :: Recency.remove key (order rest)
  | .hit key :: rest => Recency.promote key (order rest)

/-- Only what was stored is hit. -/
def HitsStored : List CacheUse → Prop
  | [] => True
  | .stored _ _ :: rest => HitsStored rest
  | .hit key :: rest => (∃ verdict, Recency.find? key (order rest) = some verdict)
    ∧ HitsStored rest

/-- A use puts its key in front of the other ones. -/
theorem order_cons {use : CacheUse} {rest : List CacheUse} (h : HitsStored (use :: rest)) :
    ∃ verdict, order (use :: rest)
      = (use.key, verdict) :: Recency.remove use.key (order rest) := by
  cases use with
  | stored key verdict => exact ⟨verdict, rfl⟩
  | hit key =>
    obtain ⟨⟨verdict, hfind⟩, _⟩ := h
    refine ⟨verdict, ?_⟩
    show Recency.promote key (order rest) = _
    unfold Recency.promote
    rw [hfind]
    rfl

theorem HitsStored.tail {use : CacheUse} {rest : List CacheUse} (h : HitsStored (use :: rest)) :
    HitsStored rest := by
  cases use with
  | stored _ _ => exact h
  | hit _ => exact h.2

theorem nodup_order {uses : List CacheUse} (h : HitsStored uses) : (keys (order uses)).Nodup := by
  induction uses with
  | nil => exact List.nodup_nil
  | cons use rest ih =>
    obtain ⟨verdict, horder⟩ := order_cons h
    rw [horder]
    exact Recency.nodup_cons_remove (ih h.tail) use.key verdict

/-- The entry of a key is what was last stored under it. -/
theorem find?_order (key : CacheKey) (uses : List CacheUse) :
    Recency.find? key (order uses) = uses.findSome? (verdict? key) := by
  induction uses with
  | nil => rfl
  | cons use rest ih =>
    rw [List.findSome?_cons]
    cases use with
    | stored k verdict =>
      rw [order, Recency.find?_cons, Recency.find?_remove, ih, verdict?]
      by_cases h : k = key
      · rw [if_pos h, if_pos h]
      · rw [if_neg h, if_neg h, if_neg fun hk => h hk.symm]
    | hit k => rw [order, Recency.find?_promote, ih, verdict?]

/-- Taking out another key does not change which keys stand before one. -/
theorem takeWhile_filter_ne {other key : CacheKey} (h : other ≠ key) (l : List CacheKey) :
    (l.filter fun k => decide (k ≠ other)).takeWhile (fun k => decide (k ≠ key))
      = (l.takeWhile fun k => decide (k ≠ key)).filter fun k => decide (k ≠ other) := by
  induction l with
  | nil => rfl
  | cons k rest ih =>
    simp only [ne_eq, decide_not] at ih ⊢
    by_cases hkey : k = key
    · simp [hkey, h.symm]
    · by_cases hother : k = other
      · simp [hother, h, ih]
      · simp [hkey, hother, ih]

/-- **A key stands behind the other keys that were used since**, each of them once. -/
theorem length_before (key : CacheKey) {uses : List CacheUse} (h : HitsStored uses) :
    ((keys (order uses)).takeWhile fun k => decide (k ≠ key)).length
      = ((uses.map CacheUse.key).takeWhile fun k => decide (k ≠ key)).toFinset.card := by
  -- no key occurs twice, so it is enough that the same keys stand in front
  have hnodup : ((keys (order uses)).takeWhile fun k => decide (k ≠ key)).Nodup :=
    (nodup_order h).sublist (List.takeWhile_sublist _)
  rw [← List.toFinset_card_of_nodup hnodup]
  congr 1
  clear hnodup
  induction uses with
  | nil => rfl
  | cons use rest ih =>
    obtain ⟨verdict, horder⟩ := order_cons h
    have hkeys : keys (order (use :: rest))
        = use.key :: (keys (order rest)).filter fun k => decide (k ≠ use.key) := by
      rw [horder, ← Recency.keys_remove]
      rfl
    rw [hkeys, List.map_cons]
    by_cases huse : use.key = key
    · rw [List.takeWhile_cons_of_neg (by simpa using huse),
        List.takeWhile_cons_of_neg (by simpa using huse)]
    · rw [List.takeWhile_cons_of_pos (by simpa using huse),
        List.takeWhile_cons_of_pos (by simpa using huse), List.toFinset_cons, List.toFinset_cons,
        ← ih h.tail, takeWhile_filter_ne huse]
      -- the key in front is the one that was taken out behind
      ext k
      simp only [List.toFinset_filter, Finset.mem_insert, Finset.mem_filter, decide_eq_true_eq]
      by_cases hk : k = use.key <;> simp [hk]

end CacheUse

/-! ## The cache keeps to the ledger -/

/-- What is left of an unbounded cache within the bound is what the rule remembers. -/
theorem CacheLedger.find?_fit {l : CacheLedger} (h : CacheUse.HitsStored l.uses)
    (maxSize : Option Nat) (key : CacheKey) :
    Recency.find? key (Recency.fit (maxSize.map fun n => max n 1) (CacheUse.order l.uses))
      = l.remembered? maxSize key := by
  have hlast : Recency.find? key (CacheUse.order l.uses) = l.lastStored? key :=
    CacheUse.find?_order key l.uses
  have hbefore := CacheUse.length_before key h
  unfold CacheLedger.remembered?
  cases maxSize with
  | none =>
    have hreach : l.Reaches none key := fun n hn => absurd hn (Option.some_ne_none n).symm
    rw [if_pos hreach]
    exact hlast
  | some n =>
    ext verdict
    refine (Recency.find?_take (max n 1) (CacheUse.order l.uses)).trans ?_
    rw [hlast, hbefore]
    by_cases hreach : l.Reaches (some n) key
    · rw [if_pos hreach]
      exact and_iff_left (hreach n rfl)
    · rw [if_neg hreach]
      refine ⟨fun hv => absurd (fun m hm => ?_) hreach, fun hv => nomatch hv⟩
      exact Option.some.inj hm ▸ hv.2

namespace Cache

/-- What the cache holds is what the uses of the ledger leave of an unbounded one, nothing in it
grows old, and the counters are those of the ledger. -/
structure Keeps (c : Cache) (l : CacheLedger) : Prop where
  entries : Recency.mapValues CacheEntry.verdict c.entries
    = Recency.fit c.config.capacity (CacheUse.order l.uses)
  ageless : ∀ e ∈ c.entries, e.2.expiresAt = none
  stored : CacheUse.HitsStored l.uses
  hits : c.hits = l.hits
  misses : c.misses = l.misses

section

variable {c : Cache} {l : CacheLedger}

theorem Keeps.find? (h : c.Keeps l) (key : CacheKey) :
    (Recency.find? key c.entries).map CacheEntry.verdict = l.remembered? c.config.maxSize key := by
  rw [← Recency.find?_mapValues, h.entries]
  exact CacheLedger.find?_fit h.stored c.config.maxSize key

/-- Where nothing grows old and containers are told apart by identity, what is present is found. -/
theorem Keeps.get (h : c.Keeps l) (hmode : c.config.fingerprint = .identity) (now : Nat)
    (v : Value) (schemaId : String) :
    c.get now v schemaId = match Recency.find? (c.keyOf v schemaId) c.entries with
      | none => (none, c.countMiss)
      | some e => (some e.verdict,
        (c.withEntries (Recency.promote (c.keyOf v schemaId) c.entries)).countHit) := by
  unfold Cache.get
  dsimp only
  cases hfind : Recency.find? (c.keyOf v schemaId) c.entries with
  | none => rfl
  | some e =>
    have hfresh : e.isExpired now = false := by
      unfold CacheEntry.isExpired
      rw [h.ageless _ (Recency.mem_of_find? hfind)]
    have hbelongs : c.belongs e v = true := by
      unfold belongs
      rw [hmode]
    dsimp only
    rw [hfresh, hbelongs]
    rfl

theorem Keeps.get_fst (h : c.Keeps l) (hmode : c.config.fingerprint = .identity) (now : Nat)
    (v : Value) (schemaId : String) :
    (c.get now v schemaId).1 = l.remembered? c.config.maxSize (c.keyOf v schemaId) := by
  rw [h.get hmode, ← h.find?]
  cases Recency.find? (c.keyOf v schemaId) c.entries <;> rfl

/-- A look-up keeps to the ledger: a hit moves a key that is present to the front. -/
theorem Keeps.lookUp (h : c.Keeps l) (hmode : c.config.fingerprint = .identity) (now : Nat)
    (v : Value) (schemaId : String) :
    (c.get now v schemaId).2.Keeps (l.lookUp c.config.maxSize (c.keyOf v schemaId)) := by
  have hrecall := h.find? (c.keyOf v schemaId)
  rw [h.get hmode]
  unfold CacheLedger.lookUp
  cases hfind : Recency.find? (c.keyOf v schemaId) c.entries with
  | none =>
    rw [hfind, Option.map_none] at hrecall
    rw [← hrecall]
    exact ⟨h.entries, h.ageless, h.stored, h.hits, congrArg Nat.succ h.misses⟩
  | some e =>
    rw [hfind, Option.map_some] at hrecall
    rw [← hrecall]
    have hfit : Recency.find? (c.keyOf v schemaId)
        (Recency.fit c.config.capacity (CacheUse.order l.uses)) = some e.verdict := by
      rw [← h.entries, Recency.find?_mapValues, hfind]
      rfl
    have hall : ∃ verdict,
        Recency.find? (c.keyOf v schemaId) (CacheUse.order l.uses) = some verdict := by
      refine ⟨e.verdict, ?_⟩
      cases hcapacity : c.config.capacity with
      | none => rwa [hcapacity] at hfit
      | some n =>
        rw [hcapacity] at hfit
        exact ((Recency.find?_take n _).mp hfit).1
    refine ⟨?_, fun x hx => h.ageless x (Recency.mem_of_mem_promote hx), ⟨hall, h.stored⟩,
      congrArg Nat.succ h.hits, h.misses⟩
    show Recency.mapValues CacheEntry.verdict (Recency.promote _ c.entries) = _
    rw [← Recency.promote_mapValues, h.entries,
      Recency.promote_fit (CacheUse.nodup_order h.stored) hfit]
    rfl

/-- So does a store: the key is put in front, and what no longer fits is cut off. -/
theorem Keeps.store (h : c.Keeps l) (hage : c.config.timeToLiveMs = none) (now : Nat) (v : Value)
    (schemaId : String) (verdict : Verdict) :
    (c.set now v schemaId verdict).Keeps (l.store (c.keyOf v schemaId) verdict) := by
  have hpos : c.config.capacity ≠ some 0 := by
    unfold CacheConfig.capacity
    intro hzero
    obtain ⟨n, _, hn⟩ := Option.map_eq_some_iff.mp hzero
    omega
  refine ⟨?_, fun e he => ?_, h.stored, h.hits, h.misses⟩
  · show Recency.mapValues CacheEntry.verdict (Recency.write _ _ _ c.entries) = _
    rw [Recency.write_mapValues, h.entries,
      Recency.write_fit (CacheUse.nodup_order h.stored) hpos]
    rfl
  · rcases Recency.mem_of_mem_write he with rfl | ⟨he, _⟩
    · show c.config.timeToLiveMs.map (now + ·) = none
      rw [hage]
      rfl
    · exact h.ageless e he

/-- **One step** keeps to the ledger. -/
theorem Keeps.step (h : c.Keeps l) (hmode : c.config.fingerprint = .identity)
    (hage : c.config.timeToLiveMs = none) (step : CacheStep) :
    (step.run c).Keeps (l.step c.config.maxSize c.keyOf step) := by
  cases step with
  | set now v schemaId verdict => exact h.store hage now v schemaId verdict
  | get now v schemaId => exact h.lookUp hmode now v schemaId
  | getOrJudge now v schemaId judge =>
    have hused := h.lookUp hmode now v schemaId
    have hfst := h.get_fst hmode now v schemaId
    rw [run_getOrJudge]
    unfold CacheStep.event? CacheLedger.step
    dsimp only
    rw [hfst]
    cases hrecall : l.remembered? c.config.maxSize (c.keyOf v schemaId) with
    | some _ => exact hused
    | none =>
      cases judge v with
      | none => exact hused
      | some verdict =>
        have hconfig := config_step c (.get now v schemaId)
        have hkey : (c.get now v schemaId).2.keyOf = c.keyOf := keyOf_get
        have hageless : (c.get now v schemaId).2.config.timeToLiveMs = none := by
          rw [← hage]
          exact congrArg _ hconfig
        have hstored := hused.store hageless now v schemaId verdict
        rw [hkey] at hstored
        exact hstored
  | clear =>
    refine ⟨?_, fun e he => absurd he List.not_mem_nil, trivial, rfl, rfl⟩
    show [] = Recency.fit c.config.capacity []
    cases c.config.capacity with
    | none => rfl
    | some n => exact List.take_nil.symm
  | purgeExpired now =>
    have hkept : (c.purgeExpired now).2 = c := by
      have hall : (c.entries.filter fun e => !e.2.isExpired now) = c.entries := by
        refine List.filter_eq_self.mpr fun e he => ?_
        unfold CacheEntry.isExpired
        rw [h.ageless e he]
        rfl
      unfold purgeExpired
      simp only [hall]
      rfl
    show ((c.purgeExpired now).2).Keeps l
    rw [hkept]
    exact h

/-- **A whole run** keeps to the ledger. -/
theorem Keeps.run (h : c.Keeps l) (hmode : c.config.fingerprint = .identity)
    (hage : c.config.timeToLiveMs = none) (steps : List CacheStep) :
    (c.run steps).Keeps (l.run c.config.maxSize c.keyOf steps) := by
  induction steps generalizing c l with
  | nil => exact h
  | cons step rest ih =>
    have hconfig := config_step c step
    have hstep := ih (h.step hmode hage step) (by rw [hconfig]; exact hmode)
      (by rw [hconfig]; exact hage)
    rw [hconfig, keyOf_step step] at hstep
    exact hstep

end

theorem keeps_empty (contentHash : ContentHash) (config : CacheConfig) :
    (emptyWith contentHash config).Keeps CacheLedger.empty := by
  refine ⟨?_, fun e he => absurd he List.not_mem_nil, trivial, rfl, rfl⟩
  show [] = Recency.fit config.capacity []
  cases config.capacity with
  | none => rfl
  | some n => exact List.take_nil.symm

/-! ## The law -/

/-- **A bounded cache forgets by disuse alone.** After any run of a cache that tells containers
apart by identity and lets nothing grow old, a look-up gives out a verdict exactly if it is the last
one stored under the key since the last clearing, and fewer distinct other keys than entries fit
were stored or hit since the key itself was. A look-up that judges gives this verdict out, too, and
judges otherwise. There are never more entries than fit, and the counters are those of the rule. -/
theorem run_recalls (contentHash : ContentHash) {config : CacheConfig}
    (hmode : config.fingerprint = .identity) (hage : config.timeToLiveMs = none)
    (steps : List CacheStep) :
    let keyOf := (emptyWith contentHash config).keyOf
    let cache := (emptyWith contentHash config).run steps
    let ledger := CacheLedger.empty.run config.maxSize keyOf steps
    (∀ (now : Nat) (v : Value) (schemaId : String) (verdict : Verdict),
        (cache.get now v schemaId).1 = some verdict
          ↔ ledger.lastStored? (keyOf v schemaId) = some verdict
            ∧ ∀ n, config.maxSize = some n → ledger.othersSince (keyOf v schemaId) < max n 1)
      ∧ (∀ (now : Nat) (v : Value) (schemaId : String) (judge : Value → Option Verdict),
        (cache.getOrJudge now v schemaId judge).map Prod.fst
          = (ledger.remembered? config.maxSize (keyOf v schemaId)).or (judge v))
      ∧ (∀ n, config.maxSize = some n → cache.size ≤ max n 1)
      ∧ cache.hits = ledger.hits ∧ cache.misses = ledger.misses := by
  intro keyOf cache ledger
  have hkeeps : cache.Keeps ledger := (keeps_empty contentHash config).run hmode hage steps
  have hconfig : cache.config = config := config_run _ steps
  have hempty : (emptyWith contentHash config).Traces [] := fun e he => absurd he List.not_mem_nil
  have hkey : cache.keyOf = keyOf := (hempty.run steps).2
  have hmode' : cache.config.fingerprint = .identity := by rw [hconfig]; exact hmode
  have hget : ∀ (now : Nat) (v : Value) (schemaId : String),
      (cache.get now v schemaId).1 = ledger.remembered? config.maxSize (keyOf v schemaId) := by
    intro now v schemaId
    rw [hkeeps.get_fst hmode', hconfig, hkey]
  refine ⟨fun now v schemaId verdict => ?_, fun now v schemaId judge => ?_, fun n hn => ?_,
    hkeeps.hits, hkeeps.misses⟩
  · rw [hget]
    unfold CacheLedger.remembered?
    by_cases hreach : ledger.Reaches config.maxSize (keyOf v schemaId)
    · rw [if_pos hreach]
      exact (and_iff_left hreach).symm
    · rw [if_neg hreach]
      exact ⟨fun h => absurd h (Option.some_ne_none verdict).symm, fun h => absurd h.2 hreach⟩
  · rw [← hget now v schemaId]
    unfold getOrJudge
    rcases cache.get now v schemaId with ⟨_ | verdict, used⟩
    · dsimp only
      cases judge v <;> rfl
    · rfl
  · have hlength := congrArg List.length hkeeps.entries
    unfold Recency.mapValues at hlength
    rw [List.length_map, hconfig, CacheConfig.capacity, hn, Option.map_some] at hlength
    exact hlength.trans_le (List.length_take_le _ _)

/-- The law where two entries fit and the first of them was used again before a third came in. -/
theorem run_recalls_least_recent :
    let config : CacheConfig := ⟨.lru, some 2, none, .identity⟩
    let cache := (emptyWith (fun _ => 0) config).run
      [.set 0 (.bool false) "flag" (.ok .null), .set 1 (.bool true) "flag" (.ok .undefined),
        .get 2 (.bool false) "flag", .set 3 .null "flag" (.ok .null)]
    config.fingerprint = .identity ∧ config.timeToLiveMs = none
      ∧ (cache.get 4 (.bool false) "flag").1 = some (.ok .null)
      ∧ (∀ verdict, (cache.get 4 (.bool true) "flag").1 ≠ some verdict)
      ∧ cache.size ≤ 2 ∧ cache.hits = 1 ∧ cache.misses = 0 := by
  intro config cache
  have hmode : config.fingerprint = .identity := rfl
  obtain ⟨hget, _, hsize, hhits, hmisses⟩ := run_recalls (fun _ => 0) hmode rfl
    [.set 0 (.bool false) "flag" (.ok .null), .set 1 (.bool true) "flag" (.ok .undefined),
      .get 2 (.bool false) "flag", .set 3 .null "flag" (.ok .null)]
  refine ⟨rfl, rfl, (hget 4 _ _ _).mpr ⟨rfl, fun n hn => ?_⟩, fun verdict h => ?_, hsize 2 rfl,
    hhits, hmisses⟩
  · cases hn
    decide
  · have hothers := ((hget 4 _ _ _).mp h).2 2 rfl
    revert hothers
    decide

end Cache

end ValueSchema
