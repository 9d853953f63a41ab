/-
What a cache gives out was put in.

A run of a cache leaves a history: what was stored, for which value and under which schema, and
when the cache was cleared. The invariant is about every entry that is present, whichever path it
took through the recency order: it holds the last thing that was stored under its key since the
last clearing. Nothing but a store makes an entry, and a store takes the entry of its key away
first, so the invariant needs no uniqueness of keys and no bound on the number of entries; it holds
for every hash of contents, as two values with one hash share one key and the later one takes the
place of the earlier. A look-up that hits then only has to tell which value the entry is about, by
the fingerprint where it names containers, and by the comparison of contents where it is a hash.
-/
import ValueSchema.Cache.Store
import ValueSchema.Proofs.Content
import Mathlib.Data.List.Permutation

set_option autoImplicit false

namespace ValueSchema

/-! ## Sameness of values -/

namespace Value

/-- The identity of a value can be read off its exact key. -/
theorem ident?_eq_key (v : Value) :
    v.ident? = match v.exactKey with
      | .ref id => some id
      | _ => none := by
  rcases v with _ | _ | _ | _ | _ | _ | _ | _ | _ | _ | _ | _ <;> rfl

theorem ident?_eq_of_exactKey {v w : Value} (h : v.exactKey = w.exactKey) :
    v.ident? = w.ident? := by
  rw [ident?_eq_key, ident?_eq_key, h]

end Value

/-- Two values are the same for a mode: they are one container, or no containers and equal with the
zeros apart; or they have the same content. -/
def FingerprintMode.Same (mode : FingerprintMode) (v w : Value) : Prop :=
  match mode with
  | .identity => v.ident? = w.ident? ∧ (v.isComposite = false → v.exactKey = w.exactKey)
  | .structural => v.SameContent w

/-! ## Steps -/

/-- One use of a cache, at the time that the clock shows then. -/
inductive CacheStep
  | set (now : Nat) (v : Value) (schemaId : String) (verdict : Verdict)
  | get (now : Nat) (v : Value) (schemaId : String)
  | getOrJudge (now : Nat) (v : Value) (schemaId : String) (judge : Value → Option Verdict)
  | clear
  | purgeExpired (now : Nat)

/-- What a history remembers. -/
inductive CacheEvent
  | stored (v : Value) (schemaId : String) (verdict : Verdict)
  | cleared

namespace CacheStep

/-- The cache after a step. A judgement that comes to nothing leaves the look-up before it. -/
def run (c : Cache) : CacheStep → Cache
  | set now v schemaId verdict => c.set now v schemaId verdict
  | get now v schemaId => (c.get now v schemaId).2
  | getOrJudge now v schemaId judge =>
    match c.getOrJudge now v schemaId judge with
    | some (_, after) => after
    | none => (c.get now v schemaId).2
  | clear => c.clear
  | purgeExpired now => (c.purgeExpired now).2

/-- What a step leaves in the history. -/
def event? (c : Cache) : CacheStep → Option CacheEvent
  | set _ v schemaId verdict => some (.stored v schemaId verdict)
  | get _ _ _ => none
  | getOrJudge now v schemaId judge =>
    match (c.get now v schemaId).1 with
    | some _ => none
    | none => (judge v).map (.stored v schemaId)
  | clear => some .cleared
  | purgeExpired _ => none

end CacheStep

namespace Cache

/-- The cache after a run. -/
def run (c : Cache) : List CacheStep → Cache
  | [] => c
  | step :: rest => (step.run c).run rest

/-- The history of a run. -/
def history (c : Cache) : List CacheStep → List CacheEvent
  | [] => []
  | step :: rest => (step.event? c).toList ++ (step.run c).history rest

end Cache

/-! ## What is left where it is -/

/-- What is used is present. -/
theorem Recency.mem_of_find? {κ ν : Type} [DecidableEq κ] {key : κ} {v : ν} {l : List (κ × ν)}
    (h : find? key l = some v) : (key, v) ∈ l := by
  unfold find? at h
  obtain ⟨e, he, rfl⟩ := Option.map_eq_some_iff.mp h
  have hkey : decide (e.1 = key) = true :=
    List.find?_some (p := fun e : κ × ν => decide (e.1 = key)) he
  rw [← of_decide_eq_true hkey]
  exact List.mem_of_find?_eq_some he

/-- A use changes the order of the entries only. -/
theorem Recency.mem_of_mem_promote {κ ν : Type} [DecidableEq κ] {key : κ} {e : κ × ν}
    {l : List (κ × ν)} (h : e ∈ promote key l) : e ∈ l := by
  unfold promote at h
  rcases hf : find? key l with _ | v
  · rwa [hf] at h
  · rw [hf] at h
    rcases List.mem_cons.mp h with rfl | h
    · exact mem_of_find? hf
    · exact ((mem_remove key e l).mp h).1

/-- After a write there are the written entry and entries of other keys. -/
theorem Recency.mem_of_mem_write {κ ν : Type} [DecidableEq κ] {capacity : Option Nat} {key : κ}
    {v : ν} {e : κ × ν} {l : List (κ × ν)} (h : e ∈ write capacity key v l) :
    e = (key, v) ∨ e ∈ l ∧ e.1 ≠ key := by
  have hmem : e ∈ (key, v) :: remove key l := by
    unfold write fit at h
    rcases capacity with _ | n
    · exact h
    · exact List.mem_of_mem_take h
  rw [← mem_remove]
  exact List.mem_cons.mp hmem

namespace Cache

variable {c : Cache} {now : Nat} {v : Value} {schemaId : String}

/-- **What a look-up can do.** It adds no entry, and it misses or gives out the verdict of an entry
that stands under the key of the value and belongs to the value. -/
theorem get_cases (c : Cache) (now : Nat) (v : Value) (schemaId : String) :
    ∃ entries : List (CacheKey × CacheEntry), (∀ e ∈ entries, e ∈ c.entries) ∧
      (c.get now v schemaId = (none, (c.withEntries entries).countMiss) ∨
        ∃ e : CacheEntry, (c.keyOf v schemaId, e) ∈ c.entries ∧ c.belongs e v = true
          ∧ c.get now v schemaId = (some e.verdict, (c.withEntries entries).countHit)) := by
  unfold get
  dsimp only
  rcases hf : Recency.find? (c.keyOf v schemaId) c.entries with _ | found
  · exact ⟨c.entries, fun _ he => he, .inl rfl⟩
  dsimp only
  by_cases hexpired : found.isExpired now = true
  · rw [if_pos hexpired]
    exact ⟨_, fun e he => ((Recency.mem_remove _ e _).mp he).1, .inl rfl⟩
  rw [if_neg hexpired]
  have hpromote : ∀ e ∈ Recency.promote (c.keyOf v schemaId) c.entries, e ∈ c.entries :=
    fun _ he => Recency.mem_of_mem_promote he
  by_cases hbelongs : c.belongs found v = true
  · rw [if_pos hbelongs]
    exact ⟨_, hpromote, .inr ⟨found, Recency.mem_of_find? hf, hbelongs, rfl⟩⟩
  · rw [if_neg hbelongs]
    exact ⟨_, hpromote, .inl rfl⟩

theorem mem_of_mem_get {e : CacheKey × CacheEntry} (h : e ∈ (c.get now v schemaId).2.entries) :
    e ∈ c.entries := by
  obtain ⟨entries, hentries, hget | ⟨_, _, _, hget⟩⟩ := get_cases c now v schemaId
  · rw [hget] at h
    exact hentries e h
  · rw [hget] at h
    exact hentries e h

theorem keyOf_get : (c.get now v schemaId).2.keyOf = c.keyOf := by
  obtain ⟨_, _, hget | ⟨_, _, _, hget⟩⟩ := get_cases c now v schemaId
  · rw [hget]
    rfl
  · rw [hget]
    rfl

theorem get_eq_some {verdict : Verdict} (h : (c.get now v schemaId).1 = some verdict) :
    ∃ e : CacheEntry, (c.keyOf v schemaId, e) ∈ c.entries ∧ c.belongs e v = true
      ∧ e.verdict = verdict := by
  obtain ⟨_, _, hget | ⟨e, he, hbelongs, hget⟩⟩ := get_cases c now v schemaId
  · rw [hget] at h
    exact absurd h (Option.some_ne_none verdict).symm
  · rw [hget] at h
    exact ⟨e, he, hbelongs, Option.some.inj h⟩

/-- The only event of a look-up that judges is that it stores what it judged. -/
theorem event?_getOrJudge {judge : Value → Option Verdict} {e : CacheEvent}
    (h : (CacheStep.getOrJudge now v schemaId judge).event? c = some e) :
    ∃ verdict, judge v = some verdict ∧ e = .stored v schemaId verdict := by
  unfold CacheStep.event? at h
  dsimp only at h
  rcases hget : (c.get now v schemaId).1 with _ | _
  · rw [hget] at h
    obtain ⟨verdict, hverdict, he⟩ := Option.map_eq_some_iff.mp h
    exact ⟨verdict, hverdict, he.symm⟩
  · rw [hget] at h
    exact absurd h (Option.some_ne_none e).symm

/-- A look-up that does not hit goes on to judge and to store; one that hits does neither. -/
theorem run_getOrJudge (judge : Value → Option Verdict) :
    (CacheStep.getOrJudge now v schemaId judge).run c
      = match (CacheStep.getOrJudge now v schemaId judge).event? c with
        | some (.stored w id verdict) => (c.get now v schemaId).2.set now w id verdict
        | _ => (c.get now v schemaId).2 := by
  unfold CacheStep.run CacheStep.event? getOrJudge
  dsimp only
  rcases c.get now v schemaId with ⟨_ | verdict, used⟩
  · dsimp only
    rcases judge v with _ | verdict
    · rfl
    · rfl
  · rfl

end Cache

/-! ## The invariant -/

/-- An event leaves alone what is stored under a key. -/
def CacheEvent.Spares (keyOf : Value → String → CacheKey) (key : CacheKey) : CacheEvent → Prop
  | .stored v schemaId _ => keyOf v schemaId ≠ key
  | .cleared => False

/-- A verdict on a value is the last thing that a history has stored under the key of the value
since it was cleared. -/
def LastStored (keyOf : Value → String → CacheKey) (history : List CacheEvent) (v : Value)
    (schemaId : String) (verdict : Verdict) : Prop :=
  ∃ before after : List CacheEvent, history = before ++ .stored v schemaId verdict :: after
    ∧ ∀ e ∈ after, e.Spares keyOf (keyOf v schemaId)

section

variable {keyOf : Value → String → CacheKey} {history : List CacheEvent} {v : Value}
  {schemaId : String} {verdict : Verdict}

theorem lastStored_now : LastStored keyOf (history ++ [.stored v schemaId verdict]) v schemaId
    verdict :=
  ⟨history, [], rfl, fun _ h => absurd h List.not_mem_nil⟩

/-- What was stored stays the last thing stored under its key as long as events spare it. -/
theorem LastStored.later (h : LastStored keyOf history v schemaId verdict) {e : CacheEvent}
    (he : e.Spares keyOf (keyOf v schemaId)) :
    LastStored keyOf (history ++ [e]) v schemaId verdict := by
  obtain ⟨before, after, rfl, hafter⟩ := h
  refine ⟨before, after ++ [e], by rw [List.append_assoc, List.cons_append], ?_⟩
  intro x hx
  rcases List.mem_append.mp hx with hx | hx
  · exact hafter x hx
  · rw [List.mem_singleton.mp hx]
    exact he

end

namespace Cache

/-- Every entry stands under the key of its value and holds the last thing stored there. -/
def Traces (c : Cache) (history : List CacheEvent) : Prop :=
  ∀ e ∈ c.entries, c.keyOf e.2.value e.1.schemaId = e.1
    ∧ LastStored c.keyOf history e.2.value e.1.schemaId e.2.verdict

section

variable {c : Cache} {history : List CacheEvent}

/-- Losing entries loses no trace. -/
theorem Traces.of_subset {c' : Cache} (h : c.Traces history) (hkey : c'.keyOf = c.keyOf)
    (hmem : ∀ e ∈ c'.entries, e ∈ c.entries) : c'.Traces history := by
  intro e he
  rw [hkey]
  exact h e (hmem e he)

/-- A store traces the new entry, and spares those of the other keys. -/
theorem Traces.set (h : c.Traces history) (now : Nat) (v : Value) (schemaId : String)
    (verdict : Verdict) :
    (c.set now v schemaId verdict).Traces (history ++ [.stored v schemaId verdict]) := by
  intro e he
  show c.keyOf _ _ = _ ∧ LastStored c.keyOf _ _ _ _
  rcases Recency.mem_of_mem_write he with rfl | ⟨he, hother⟩
  · exact ⟨rfl, lastStored_now⟩
  · obtain ⟨hkey, hlast⟩ := h e he
    refine ⟨hkey, hlast.later ?_⟩
    rw [hkey]
    exact fun hsame => hother hsame.symm

theorem keyOf_step (step : CacheStep) : (step.run c).keyOf = c.keyOf := by
  rcases step with ⟨now, v, schemaId, verdict⟩ | ⟨now, v, schemaId⟩ |
    ⟨now, v, schemaId, judge⟩ | _ | now
  · rfl
  · exact keyOf_get
  · rw [run_getOrJudge]
    rcases (CacheStep.getOrJudge now v schemaId judge).event? c with _ | _ | _
    · exact keyOf_get
    · exact keyOf_get
    · exact keyOf_get
  · rfl
  · rfl

/-- **One step** keeps every entry traced. -/
theorem Traces.step (h : c.Traces history) (step : CacheStep) :
    (step.run c).Traces (history ++ (step.event? c).toList) := by
  rcases step with ⟨now, v, schemaId, verdict⟩ | ⟨now, v, schemaId⟩ |
    ⟨now, v, schemaId, judge⟩ | _ | now
  · exact h.set now v schemaId verdict
  · have hused : (c.get now v schemaId).2.Traces history :=
      h.of_subset keyOf_get fun _ he => mem_of_mem_get he
    rw [CacheStep.event?, Option.toList_none, List.append_nil]
    exact hused
  · have hused : (c.get now v schemaId).2.Traces history :=
      h.of_subset keyOf_get fun _ he => mem_of_mem_get he
    rw [run_getOrJudge]
    rcases he : (CacheStep.getOrJudge now v schemaId judge).event? c with _ | ⟨w, id, verdict⟩ | _
    · rw [Option.toList_none, List.append_nil]
      exact hused
    · exact hused.set now w id verdict
    · -- a look-up never clears
      obtain ⟨_, _, hcleared⟩ := event?_getOrJudge he
      exact nomatch hcleared
  · exact fun e he => absurd he List.not_mem_nil
  · rw [CacheStep.event?, Option.toList_none, List.append_nil]
    exact h.of_subset rfl fun e he => (List.mem_filter.mp he).1

/-- **A whole run** keeps every entry traced. -/
theorem Traces.run (h : c.Traces history) (steps : List CacheStep) :
    (c.run steps).Traces (history ++ c.history steps) ∧ (c.run steps).keyOf = c.keyOf := by
  induction steps generalizing c history with
  | nil =>
    rw [Cache.history, List.append_nil]
    exact ⟨h, rfl⟩
  | cons step rest ih =>
    obtain ⟨htraces, hkey⟩ := ih (h.step step)
    rw [Cache.history, ← List.append_assoc]
    exact ⟨htraces, hkey.trans (keyOf_step step)⟩

end

/-! ## The law -/

/-- An entry under the key of a value that belongs to the value is about the same value. -/
theorem same_of_belongs {c : Cache} {e : CacheEntry} {v : Value} {schemaId : String}
    (hkey : c.keyOf e.value schemaId = c.keyOf v schemaId) (hbelongs : c.belongs e v = true) :
    c.config.fingerprint.Same e.value v := by
  unfold keyOf Fingerprint.ofValue at hkey
  unfold belongs at hbelongs
  rcases hmode : c.config.fingerprint
  · -- the fingerprint is the exact key, which names a container
    rw [hmode] at hkey
    have hexact : e.value.exactKey = v.exactKey :=
      Fingerprint.key.inj (CacheKey.mk.inj hkey).2
    exact ⟨Value.ident?_eq_of_exactKey hexact, fun _ => hexact⟩
  · -- the fingerprint may be one of other contents, too
    rw [hmode] at hbelongs
    exact hbelongs

theorem config_step (c : Cache) (step : CacheStep) : (step.run c).config = c.config := by
  have hget : ∀ (now : Nat) (v : Value) (schemaId : String),
      (c.get now v schemaId).2.config = c.config := by
    intro now v schemaId
    obtain ⟨_, _, hget | ⟨_, _, _, hget⟩⟩ := get_cases c now v schemaId
    · rw [hget]
      rfl
    · rw [hget]
      rfl
  rcases step with ⟨now, v, schemaId, verdict⟩ | ⟨now, v, schemaId⟩ |
    ⟨now, v, schemaId, judge⟩ | _ | now
  · rfl
  · exact hget now v schemaId
  · rw [run_getOrJudge]
    rcases (CacheStep.getOrJudge now v schemaId judge).event? c with _ | _ | _
    · exact hget now v schemaId
    · exact hget now v schemaId
    · exact hget now v schemaId
  · rfl
  · rfl

theorem config_run (c : Cache) (steps : List CacheStep) : (c.run steps).config = c.config := by
  induction steps generalizing c with
  | nil => rfl
  | cons step rest ih => exact (ih (step.run c)).trans (config_step c step)

/-- A look-up that gives out a verdict gives out the last thing stored under the key of the value,
for a value that is the same for the mode. -/
theorem lastStored_of_get {contentHash : ContentHash} {config : CacheConfig}
    {steps : List CacheStep} {now : Nat} {v : Value} {schemaId : String} {verdict : Verdict}
    (h : (((emptyWith contentHash config).run steps).get now v schemaId).1 = some verdict) :
    ∃ stored : Value, config.fingerprint.Same stored v
      ∧ (emptyWith contentHash config).keyOf stored schemaId
        = (emptyWith contentHash config).keyOf v schemaId
      ∧ LastStored (emptyWith contentHash config).keyOf
        ((emptyWith contentHash config).history steps) stored schemaId verdict := by
  have hempty : (emptyWith contentHash config).Traces [] := fun e he => absurd he List.not_mem_nil
  obtain ⟨htraces, hkeyOf⟩ := hempty.run steps
  obtain ⟨e, hmem, hbelongs, rfl⟩ := get_eq_some h
  obtain ⟨hkey, hlast⟩ := htraces _ hmem
  have hsame := same_of_belongs hkey hbelongs
  rw [config_run] at hsame
  rw [hkeyOf] at hkey hlast
  exact ⟨e.value, hsame, hkey, hlast⟩

/-- **What a cache gives out was put in.** Whatever the hash of contents, the mode, the bound and
the age that entries may reach: after a run from an empty cache, a look-up that gives out a verdict
gives out one that was stored under the very same schema for a value that is the same for the
mode, and since then the cache was not cleared and nothing was stored under that key. -/
theorem get_lastStored (contentHash : ContentHash) (config : CacheConfig)
    (steps : List CacheStep) (now : Nat) (v : Value) (schemaId : String) (verdict : Verdict)
    (h : (((emptyWith contentHash config).run steps).get now v schemaId).1 = some verdict) :
    ∃ stored : Value, config.fingerprint.Same stored v ∧
      ∃ before after : List CacheEvent,
        (emptyWith contentHash config).history steps
            = before ++ .stored stored schemaId verdict :: after
          ∧ .cleared ∉ after
          ∧ ∀ (w : Value) (id : String) (other : Verdict), .stored w id other ∈ after →
            (emptyWith contentHash config).keyOf w id
              ≠ (emptyWith contentHash config).keyOf v schemaId := by
  obtain ⟨stored, hsame, hkey, before, after, hhistory, hafter⟩ := lastStored_of_get h
  rw [hkey] at hafter
  refine ⟨stored, hsame, before, after, hhistory, fun hcleared => hafter _ hcleared, ?_⟩
  intro w id other hother
  exact hafter _ hother

/-- The law where all contents have one hash, the entries fit one at a time and the verdict on a
first list was displaced by that on a second one. -/
theorem get_lastStored_colliding :
    ∃ stored : Value, stored.SameContent (.array (.given 3) [.bool true]) ∧
      ∃ before after : List CacheEvent,
        (emptyWith (fun _ => 0) ⟨.lru, some 1, none, .structural⟩).history
            [.set 0 (.array (.given 1) [.bool false]) "list" (.ok .null),
              .getOrJudge 1 (.array (.given 2) [.bool true]) "list" fun v => some (.ok v)]
            = before ++ .stored stored "list" (.ok (.array (.given 2) [.bool true])) :: after
          ∧ .cleared ∉ after := by
  obtain ⟨stored, hsame, before, after, hhistory, hcleared, _⟩ :=
    get_lastStored (fun _ => 0) ⟨.lru, some 1, none, .structural⟩
      [.set 0 (.array (.given 1) [.bool false]) "list" (.ok .null),
        .getOrJudge 1 (.array (.given 2) [.bool true]) "list" fun v => some (.ok v)]
      2 (.array (.given 3) [.bool true]) "list" (.ok (.array (.given 2) [.bool true])) (by cbv)
  exact ⟨stored, hsame, before, after, hhistory, hcleared⟩

end Cache

end ValueSchema
