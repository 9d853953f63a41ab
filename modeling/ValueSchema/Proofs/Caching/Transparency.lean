/-
When a cache cannot be told from judging.

A cache in front of schemas answers with what it has stored for a value that is the same for its
mode. So it cannot be told from judging as soon as no schema tells such values apart, and as a
second look-up right behind a first one always hits, it can be told wherever a schema does. What is
left is which schemas tell values apart that are the same for a mode. By identity they are one value
to begin with. By content they may be copies of each other, and a schema that looks for repeats
among elements, which it knows by identity, tells a list of one container twice from a list of two
copies of it: there the cache answers for one list what was judged of the other.
-/
import ValueSchema.Proofs.Caching.Histories
import ValueSchema.Proofs.Likeness.Copies
import ValueSchema.Proofs.Termination.Families

set_option autoImplicit false

namespace ValueSchema

open List (Forall₂)

/-! ## Sameness and fingerprints -/

namespace FingerprintMode

theorem same_refl (mode : FingerprintMode) (v : Value) : mode.Same v v := by
  rcases mode
  · exact ⟨rfl, fun _ => rfl⟩
  · exact Value.sameContent_refl v

/-- **Same values have one fingerprint**, whatever the hash of contents. -/
theorem ofValue_eq_of_same (contentHash : ContentHash) {mode : FingerprintMode} {v w : Value}
    (h : mode.Same v w) :
    Fingerprint.ofValue contentHash mode v = Fingerprint.ofValue contentHash mode w := by
  rcases mode
  · obtain ⟨hident, hplain⟩ := h
    show Fingerprint.key v.exactKey = Fingerprint.key w.exactKey
    by_cases hv : v.isComposite = false
    · rw [hplain hv]
    · have hkey : ∀ x : Value, x.isComposite ≠ false →
          x.exactKey = .ref (x.ident?.getD default) := by
        intro x hx
        rcases x with _ | _ | _ | _ | _ | _ | _ | _ | _ | _ | _ | _ <;>
          first | rfl | exact absurd rfl hx
      have hw : w.isComposite ≠ false := by
        unfold Value.isComposite at hv ⊢
        rwa [← hident]
      rw [hkey v hv, hkey w hw, hident]
  · have hcontent : v.SameContent w := h
    unfold Fingerprint.ofValue
    dsimp only
    by_cases hv : v.isComposite = true
    · have hw : w.isComposite = true := by
        rcases Value.parts_of_sameContent hv hcontent with hp | _ | _ | _ | _
        · exact hv
        · rfl
        · rfl
        · rfl
        · rfl
      rw [if_pos hv, if_pos hw, Value.contentTokens_eq_of_sameContent hcontent]
    · obtain ⟨hw, hkey⟩ := (Value.sameContent_plain (Bool.eq_false_iff.mpr hv)).mp hcontent
      rw [if_neg hv, if_neg (Bool.eq_false_iff.mp hw), hkey]

end FingerprintMode

/-! ## Runs in front of judges -/

/-- Two verdicts accept with outputs of the same content, or reject with issues that differ at most
in what they received, and there not in content. -/
def Verdict.Alike : Verdict → Verdict → Prop :=
  Verdict.Like Value.SameContent (Forall₂ (Issue.Like Value.SameContent))

theorem Verdict.alike_refl (verdict : Verdict) : verdict.Alike verdict := by
  rcases verdict with e | v
  · exact .error (List.forall₂_same.mpr fun i _ => .refl Value.sameContent_refl i)
  · exact .ok (Value.sameContent_refl v)

/-- A step asks for the judgement of a live value by the judge that stands behind its schema, or
clears the cache. -/
def CacheStep.Asks (judge : String → Value → Option Verdict) (live : Value → Prop) :
    CacheStep → Prop
  | getOrJudge _ v schemaId asked => live v ∧ asked = judge schemaId
  | clear => True
  | _ => False

namespace Cache

/-- A cache in front of judges cannot be told from the judges: after every run of look-ups and
clearings it answers whenever the judge does, and as the judge does on the very value. -/
def Transparent (contentHash : ContentHash) (config : CacheConfig)
    (judge : String → Value → Option Verdict) (live : Value → Prop) : Prop :=
  ∀ steps : List CacheStep, (∀ step ∈ steps, step.Asks judge live) →
    ∀ (now : Nat) (v : Value) (schemaId : String) (verdict : Verdict), live v →
      judge schemaId v = some verdict →
      ∃ (answer : Verdict) (after : Cache),
        ((emptyWith contentHash config).run steps).getOrJudge now v schemaId (judge schemaId)
            = some (answer, after)
          ∧ answer.Alike verdict

section

variable {contentHash : ContentHash} {config : CacheConfig}
  {judge : String → Value → Option Verdict} {live : Value → Prop}

/-- What is stored is what the judge comes to. -/
theorem stored_of_event? {c : Cache} {step : CacheStep} (hstep : step.Asks judge live) {v : Value}
    {schemaId : String} {verdict : Verdict}
    (h : step.event? c = some (.stored v schemaId verdict)) :
    live v ∧ judge schemaId v = some verdict := by
  rcases step with ⟨now, w, id, r⟩ | ⟨now, w, id⟩ | ⟨now, w, id, asked⟩ | _ | now
  · exact hstep.elim
  · exact hstep.elim
  · obtain ⟨hlive, rfl⟩ := hstep
    obtain ⟨r, hr, hevent⟩ := event?_getOrJudge h
    injection hevent with hv hid hverdict
    subst hv hid hverdict
    exact ⟨hlive, hr⟩
  · exact absurd h (nomatch ·)
  · exact hstep.elim

theorem stored_of_history {steps : List CacheStep} : ∀ {c : Cache},
    (∀ step ∈ steps, step.Asks judge live) → ∀ {v : Value} {schemaId : String} {verdict : Verdict},
    .stored v schemaId verdict ∈ c.history steps → live v ∧ judge schemaId v = some verdict := by
  induction steps with
  | nil => exact fun _ _ _ _ h => absurd h List.not_mem_nil
  | cons step rest ih =>
    intro c hsteps v schemaId verdict h
    rcases List.mem_append.mp h with h | h
    · exact stored_of_event? (hsteps step List.mem_cons_self) (Option.mem_toList.mp h)
    · exact ih (fun t ht => hsteps t (List.mem_cons_of_mem _ ht)) h

/-- **Every answer was judged** of a live value that is the same for the mode. -/
theorem judged_of_getOrJudge {steps : List CacheStep}
    (hsteps : ∀ step ∈ steps, step.Asks judge live)
    {now : Nat} {v : Value} (hv : live v) {schemaId : String} {answer : Verdict} {after : Cache}
    (h : ((emptyWith contentHash config).run steps).getOrJudge now v schemaId (judge schemaId)
      = some (answer, after)) :
    ∃ w : Value, live w ∧ config.fingerprint.Same w v ∧ judge schemaId w = some answer := by
  unfold getOrJudge at h
  rcases hget : ((emptyWith contentHash config).run steps).get now v schemaId with ⟨_ | found, used⟩
  · rw [hget] at h
    dsimp only at h
    rcases hjudge : judge schemaId v with _ | verdict
    · rw [hjudge] at h
      exact absurd h (nomatch ·)
    · rw [hjudge] at h
      have hanswer : verdict = answer := congrArg Prod.fst (Option.some.inj h)
      exact ⟨v, hv, config.fingerprint.same_refl v, hanswer ▸ hjudge⟩
  · rw [hget] at h
    have hanswer : found = answer := congrArg Prod.fst (Option.some.inj h)
    have hfound : (((emptyWith contentHash config).run steps).get now v schemaId).1
        = some found := congrArg Prod.fst hget
    obtain ⟨w, hsame, _, before, rest, hhistory, _⟩ := lastStored_of_get hfound
    have hmem : .stored w schemaId found ∈ (emptyWith contentHash config).history steps := by
      rw [hhistory]
      exact List.mem_append_right _ List.mem_cons_self
    obtain ⟨hw, hjudge⟩ := stored_of_history hsteps hmem
    exact ⟨w, hw, hsame, hanswer ▸ hjudge⟩

/-- What was stored last is found, whatever the bound on the number of entries. -/
theorem find?_set (c : Cache) (now : Nat) (v : Value) (schemaId : String) (verdict : Verdict) :
    Recency.find? (c.keyOf v schemaId) (c.set now v schemaId verdict).entries
      = some ⟨v, verdict, c.config.timeToLiveMs.map (now + ·)⟩ := by
  show Recency.find? _ (Recency.write _ _ _ _) = _
  -- there is room for one entry in every cache
  have hroom : c.config.capacity = none ∨ ∃ n, c.config.capacity = some (n + 1) := by
    unfold CacheConfig.capacity
    rcases c.config.maxSize with _ | n
    · exact .inl rfl
    · refine .inr ⟨max n 1 - 1, ?_⟩
      have hpos : 1 ≤ max n 1 := Nat.le_max_right n 1
      rw [Option.map_some, Nat.sub_add_cancel hpos]
  unfold Recency.write Recency.fit Recency.find?
  rcases hroom with hroom | ⟨n, hroom⟩
  · rw [hroom]
    simp only [List.find?_cons_of_pos, decide_true, Option.map_some]
  · rw [hroom]
    simp only [List.take_succ_cons, List.find?_cons_of_pos, decide_true, Option.map_some]

/-- What was just stored is given out for every value that is the same for the mode, until it is too
old. -/
theorem get_set_of_same {c : Cache} {now later : Nat}
    (hlive : ∀ ms, c.config.timeToLiveMs = some ms → later < now + ms) {v w : Value}
    (hsame : c.config.fingerprint.Same v w) (schemaId : String) (verdict : Verdict) :
    ((c.set now v schemaId verdict).get later w schemaId).1 = some verdict := by
  have hkey : (c.set now v schemaId verdict).keyOf w schemaId = c.keyOf v schemaId := by
    show CacheKey.mk schemaId (.ofValue c.contentHash c.config.fingerprint w) = _
    rw [← FingerprintMode.ofValue_eq_of_same c.contentHash hsame]
    rfl
  have hfresh : CacheEntry.isExpired ⟨v, verdict, c.config.timeToLiveMs.map (now + ·)⟩ later
      = false := by
    unfold CacheEntry.isExpired
    rcases hage : c.config.timeToLiveMs with _ | ms
    · rfl
    · exact decide_eq_false (Nat.not_le.mpr (hlive ms hage))
  have hbelongs : (c.set now v schemaId verdict).belongs
      ⟨v, verdict, c.config.timeToLiveMs.map (now + ·)⟩ w = true := by
    have hconfig : (c.set now v schemaId verdict).config = c.config := rfl
    unfold belongs
    rw [hconfig]
    rcases hmode : c.config.fingerprint
    · rfl
    · rw [hmode] at hsame
      exact hsame
  unfold get
  dsimp only
  rw [hkey, find?_set]
  simp only [hfresh, hbelongs, if_true, Bool.false_eq_true, if_false]

/-- A look-up answers where the judge does. -/
theorem getOrJudge_answers (c : Cache) (now : Nat) {v : Value} {schemaId : String}
    {verdict : Verdict} (h : judge schemaId v = some verdict) :
    ∃ (answer : Verdict) (after : Cache),
      c.getOrJudge now v schemaId (judge schemaId) = some (answer, after) := by
  unfold getOrJudge
  rcases c.get now v schemaId with ⟨_ | found, used⟩
  · dsimp only
    rw [h]
    exact ⟨_, _, rfl⟩
  · exact ⟨_, _, rfl⟩

/-- A second look-up at the time of the first one is answered as the first one was, for every value
that is the same for the mode. -/
theorem getOrJudge_of_same (hage : config.timeToLiveMs ≠ some 0) {v w : Value} {schemaId : String}
    {verdict : Verdict} (hsame : config.fingerprint.Same v w)
    (h : judge schemaId v = some verdict) :
    ∃ after : Cache,
      ((emptyWith contentHash config).run
          [.getOrJudge 0 v schemaId (judge schemaId)]).getOrJudge 0 w schemaId (judge schemaId)
        = some (verdict, after) := by
  -- the first look-up misses the empty cache and stores what it judged
  have hfirst : (emptyWith contentHash config).getOrJudge 0 v schemaId (judge schemaId)
      = (judge schemaId v).map fun r =>
        (r, (emptyWith contentHash config).countMiss.set 0 v schemaId r) := by
    have hmiss : (emptyWith contentHash config).get 0 v schemaId
        = (none, (emptyWith contentHash config).countMiss) := rfl
    unfold getOrJudge
    rw [hmiss]
    rcases judge schemaId v with _ | r <;> rfl
  have hrun : (emptyWith contentHash config).run [.getOrJudge 0 v schemaId (judge schemaId)]
      = (emptyWith contentHash config).countMiss.set 0 v schemaId verdict := by
    show CacheStep.run _ (.getOrJudge 0 v schemaId (judge schemaId)) = _
    unfold CacheStep.run
    dsimp only
    rw [hfirst, h]
    rfl
  have hlive : ∀ ms, config.timeToLiveMs = some ms → 0 < 0 + ms := by
    intro ms hms
    have hpos : ms ≠ 0 := fun hzero => hage (hms.trans (congrArg some hzero))
    omega
  have hhit := get_set_of_same (c := (emptyWith contentHash config).countMiss) hlive hsame
    schemaId verdict
  rw [hrun]
  unfold getOrJudge
  rcases hget : ((emptyWith contentHash config).countMiss.set 0 v schemaId verdict).get 0 w schemaId
    with ⟨found, used⟩
  rw [hget] at hhit
  rw [show found = some verdict from hhit]
  exact ⟨used, rfl⟩

/-- A cache cannot be told from judges that do not tell apart what is the same for the mode. -/
theorem transparent_of_judge
    (h : ∀ (schemaId : String) (v w : Value) (r r' : Verdict), live v → live w →
      config.fingerprint.Same v w → judge schemaId v = some r → judge schemaId w = some r' →
      r.Alike r') :
    Transparent contentHash config judge live := by
  intro steps hsteps now v schemaId verdict hv hverdict
  obtain ⟨answer, after, hanswer⟩ :=
    getOrJudge_answers ((emptyWith contentHash config).run steps) now hverdict
  obtain ⟨w, hw, hsame, hjudged⟩ := judged_of_getOrJudge hsteps hv hanswer
  exact ⟨answer, after, hanswer, h schemaId w v answer verdict hw hv hsame hjudged hverdict⟩

/-- If entries live for a time at all, a cache that cannot be told from judges stands in front of
such judges. -/
theorem Transparent.alike (ht : Transparent contentHash config judge live)
    (hage : config.timeToLiveMs ≠ some 0) {schemaId : String} {v w : Value} {r r' : Verdict}
    (hv : live v) (hw : live w) (hsame : config.fingerprint.Same v w)
    (hr : judge schemaId v = some r) (hr' : judge schemaId w = some r') : r.Alike r' := by
  have hsteps : ∀ step ∈ [CacheStep.getOrJudge 0 v schemaId (judge schemaId)],
      step.Asks judge live := by
    intro step hstep
    rw [List.mem_singleton.mp hstep]
    exact ⟨hv, rfl⟩
  obtain ⟨answer, after, hanswer, halike⟩ := ht _ hsteps 0 w schemaId r' hw hr'
  obtain ⟨after', hhit⟩ := getOrJudge_of_same hage hsame hr
  rw [hhit] at hanswer
  have hfirst : r = answer := congrArg Prod.fst (Option.some.inj hanswer)
  rwa [hfirst]

end

end Cache

/-! ## Caches in front of schemas -/

/-- Judging by the schema that stands behind a name, at the root. -/
def Schema.judgeAt (schemas : String → Schema) (families : String → Family) (schemaId : String)
    (v : Value) : Option Verdict := (schemas schemaId).validate (families schemaId) v

/-- Alike verdicts on copies are alike in content. -/
theorem Verdict.alike_of_copies {r r' : Verdict} (h : Likeness.copies.verdict r r') :
    r.Alike r' := by
  rcases h with hout | hissues
  · exact .ok (Value.Copies.sameContent hout)
  · exact .error (hissues.imp fun i i' hi => hi.mono fun _ _ hvw => Value.Copies.sameContent hvw)

/-- **When a cache cannot be told from its schemas.** By identity, if the values that are around are
told apart by their identities and keys, as one allocation holds one value. By content, if values of
the same content are copies of each other, as there is one NaN and one description of a symbol, and
no schema reads an identity. And in either mode, as soon as entries live for a time at all, exactly
if no schema tells apart what is the same for the mode. -/
theorem Schema.cache_transparent (contentHash : ContentHash) (config : CacheConfig)
    (schemas : String → Schema) (families : String → Family) (live : Value → Prop) :
    (config.fingerprint = .identity →
        (∀ v w, live v → live w → FingerprintMode.identity.Same v w → v = w) →
        Cache.Transparent contentHash config (judgeAt schemas families) live)
      ∧ (config.fingerprint = .structural →
        (∀ v w, live v → live w → v.SameContent w → v.Copies w) →
        (∀ schemaId, (schemas schemaId).Every ReadsContent
          ∧ ∀ e ∈ families schemaId, e.2.Every ReadsContent) →
        Cache.Transparent contentHash config (judgeAt schemas families) live)
      ∧ (config.timeToLiveMs ≠ some 0 →
        (Cache.Transparent contentHash config (judgeAt schemas families) live ↔
          ∀ (schemaId : String) (v w : Value) (r r' : Verdict), live v → live w →
            config.fingerprint.Same v w → judgeAt schemas families schemaId v = some r →
            judgeAt schemas families schemaId w = some r' → r.Alike r')) := by
  refine ⟨fun hmode hlive => ?_, fun hmode hlive hreads => ?_, fun hage => ⟨?_, ?_⟩⟩
  · refine Cache.transparent_of_judge fun schemaId v w r r' hv hw hsame hr hr' => ?_
    rw [hmode] at hsame
    have hvalue : v = w := hlive v w hv hw hsame
    rw [hvalue, hr'] at hr
    rw [Option.some.inj hr]
    exact r.alike_refl
  · refine Cache.transparent_of_judge fun schemaId v w r r' hv hw hsame hr hr' => ?_
    rw [hmode] at hsame
    have hcopies : v.Copies w := hlive v w hv hw hsame
    obtain ⟨hschema, hfamily⟩ := hreads schemaId
    have hlike := validateIn_copies hschema hfamily hcopies Context.root
    rcases hlike.eq_or with ⟨hnone, _⟩ | ⟨a, b, ha, hb, hab⟩
    · exact absurd (hnone.symm.trans hr) (nomatch ·)
    · rw [← Option.some.inj (ha.symm.trans hr), ← Option.some.inj (hb.symm.trans hr')]
      exact Verdict.alike_of_copies hab
  · exact fun ht schemaId v w r r' hv hw hsame hr hr' => ht.alike hage hv hw hsame hr hr'
  · exact Cache.transparent_of_judge

/-- A copy of the tree of two labels. -/
def Value.twigCopy : Value :=
  .object (.given 5) [("label", .string "twig"), ("below", .array (.given 6)
    [.object (.given 7) [("label", .string "leaf"), ("below", .array (.given 8) [])]])]

/-- The law for trees and labels behind a cache by content, where all contents have one hash: the
tree of two labels and its copy are never told apart. -/
theorem Schema.cache_transparent_twig :
    Cache.Transparent (fun _ => 0) (CacheConfig.standard.withFingerprint .structural)
      (judgeAt (fun _ => labelOrTree) fun _ => Family.trees)
      fun v => v = Value.twig ∨ v = Value.twigCopy := by
  have hcopies : Value.twig.Copies Value.twigCopy := rfl
  have hlive : ∀ v w : Value, (v = .twig ∨ v = .twigCopy) → (w = .twig ∨ w = .twigCopy) →
      v.SameContent w → v.Copies w := by
    rintro v w (rfl | rfl) (rfl | rfl) _
    · exact rfl
    · exact hcopies
    · exact hcopies.symm
    · exact rfl
  have hschema : labelOrTree.Every ReadsContent := by
    refine labelOrTree_every trivial (fun path v w hvw => ⟨.nil, ?_⟩) trivial trivial
    have hstring : v.string? = w.string? := Value.string?_eq_of_sameContent hvw.sameContent
    exact congrArg (fun text => Except.ok (text != some "")) hstring
  have htrees : ∀ e ∈ Family.trees, e.2.Every ReadsContent := by
    intro e he
    rw [List.mem_singleton.mp he]
    exact treeNode_every trivial trivial rfl trivial
  exact (Schema.cache_transparent (fun _ => 0) (CacheConfig.standard.withFingerprint .structural)
    (fun _ => labelOrTree) (fun _ => Family.trees) _).2.1 rfl hlive fun _ => ⟨hschema, htrees⟩

/-! ## Repeats -/

/-- A list whose elements all differ. -/
def Schema.distinctList : Schema := .array (.plain .any) { ArrayBounds.any with unique := true }

/-- A list of a list and of a copy of it. -/
def Value.listOfCopies : Value :=
  .array (.given 1) [.array (.given 2) [.bool true], .array (.given 3) [.bool true]]

/-- A list of one list twice. -/
def Value.listOfOne : Value :=
  .array (.given 4) [.array (.given 5) [.bool true], .array (.given 5) [.bool true]]

/-- **A cache by content answers for a copy that is told apart.** Two lists are the same by content.
One holds a list and a copy of it, which are no repeats, the other holds one list twice. The cache
accepts the second one, as the first one was accepted; the schema itself rejects it. -/
theorem Cache.accepts_listOfOne :
    (((emptyWith (fun _ => 0) (CacheConfig.standard.withFingerprint .structural)).run
          [.getOrJudge 0 .listOfCopies "list" (Schema.distinctList.validate [])]).getOrJudge 0
        .listOfOne "list" (Schema.distinctList.validate [])).map (fun a => a.1.isOk) = some true
      ∧ (Schema.distinctList.validate [] .listOfOne).map Except.isOk = some false := by
  have hsame : FingerprintMode.structural.Same .listOfCopies .listOfOne := by
    show Value.sameContent _ _ = true
    cbv
  obtain ⟨verdict, hverdict, hok⟩ : ∃ verdict,
      Schema.distinctList.validate [] .listOfCopies = some verdict ∧ verdict.isOk = true :=
    ⟨_, rfl, rfl⟩
  obtain ⟨after, hanswer⟩ := @getOrJudge_of_same (fun _ => 0)
    (CacheConfig.standard.withFingerprint .structural)
    (fun _ => Schema.distinctList.validate []) (fun hage => (by cases hage)) _ _ "list" _ hsame
    hverdict
  refine ⟨?_, rfl⟩
  rw [hanswer, Option.map_some, hok]

end ValueSchema
