/-
Fingerprints of content.

A hash of a value reads its content as a sequence of tokens, and the comparison that confirms a hit
goes through the contents itself. The two are one notion: a sequence tells where the value that it
was read from ends, as kinds and sizes come before what they are about, so two values with one
sequence have the same content. To have the same content is therefore to read alike, which makes it
an equivalence relation, and a hash can only confuse contents that it is given different sequences
of.

A cache that looks contents up by such a hash never misses a copy of what it was just given, and
gives nothing out for another content even if the hashes collide.
-/
import ValueSchema.Proofs.Caching.Transparency

set_option autoImplicit false

namespace ValueSchema

open List (Forall₂)

namespace Value

/-! ## Reading contents back -/

theorem contentTokens_plain {v : Value} (hv : v.isComposite = false) :
    v.contentTokens = [.kind v.kindName, .leaf v.exactKey] := by
  cases v with
  | array _ _ | object _ _ | map _ _ | set _ _ => cases hv
  | _ => rfl

/-- Lists of one length of which the elements can be read back one by one can be read back. -/
theorem forall₂_of_flatMap_append {α : Type} {read : α → List Token} {R : α → α → Prop}
    {xs : List α} {ts us : List Token}
    (hread : ∀ x ∈ xs, ∀ (y : α) (ts us : List Token), read x ++ ts = read y ++ us →
      R x y ∧ ts = us) :
    ∀ {ys : List α}, xs.length = ys.length → xs.flatMap read ++ ts = ys.flatMap read ++ us →
      Forall₂ R xs ys ∧ ts = us := by
  induction xs with
  | nil =>
    intro ys hlength h
    cases ys with
    | nil => exact ⟨.nil, h⟩
    | cons y ys => cases hlength
  | cons x xs ih =>
    intro ys hlength h
    cases ys with
    | nil => cases hlength
    | cons y ys =>
      rw [List.flatMap_cons, List.flatMap_cons, List.append_assoc, List.append_assoc] at h
      obtain ⟨hxy, hrest⟩ := hread x List.mem_cons_self y _ _ h
      obtain ⟨hall, htail⟩ := ih (fun x' hx' => hread x' (List.mem_cons_of_mem x hx'))
        (Nat.succ.inj hlength) hrest
      exact ⟨.cons hxy hall, htail⟩

/-- The tokens of a value tell its content and where they end. -/
def TellsContent (v : Value) : Prop :=
  ∀ (w : Value) (ts us : List Token),
    v.contentTokens ++ ts = w.contentTokens ++ us → v.SameContent w ∧ ts = us

namespace TellsContent

/-- A value without parts is told by two tokens, its kind and its key, which no container has. -/
theorem plain {v : Value} (hv : v.isComposite = false) : v.TellsContent := by
  intro w ts us h
  rw [contentTokens_plain hv] at h
  by_cases hw : w.isComposite = false
  · rw [contentTokens_plain hw] at h
    simp only [List.cons_append, List.nil_append, List.cons.injEq, Token.leaf.injEq] at h
    exact ⟨(sameContent_plain hv).mpr ⟨hw, h.2.1⟩, h.2.2⟩
  · cases w with
    | array _ _ | object _ _ | map _ _ | set _ _ => simp [contentTokens] at h
    | _ => exact absurd rfl hw

/-! The first token of a container is its kind, and the second one tells how many parts follow. -/

theorem array {id : Ident} {xs : List Value} (hxs : ∀ x ∈ xs, x.TellsContent) :
    (Value.array id xs).TellsContent := by
  intro w ts us h
  cases w with
  | array id' ys =>
    simp only [contentTokens, itemTokens_eq_flatMap, List.cons_append, List.cons.injEq,
      Token.count.injEq, true_and] at h
    obtain ⟨hall, htail⟩ := forall₂_of_flatMap_append hxs h.1 h.2
    exact ⟨(sameContent_array _ _ _ _).mpr hall, htail⟩
  | _ => simp [contentTokens] at h

theorem set {id : Ident} {xs : List Value} (hxs : ∀ x ∈ xs, x.TellsContent) :
    (Value.set id xs).TellsContent := by
  intro w ts us h
  cases w with
  | set id' ys =>
    simp only [contentTokens, itemTokens_eq_flatMap, List.cons_append, List.cons.injEq,
      Token.count.injEq, true_and] at h
    obtain ⟨hall, htail⟩ := forall₂_of_flatMap_append hxs h.1 h.2
    exact ⟨(sameContent_set _ _ _ _).mpr hall, htail⟩
  | _ => simp [contentTokens] at h

theorem object {id : Ident} {xs : List (String × Value)} (hxs : ∀ f ∈ xs, f.2.TellsContent) :
    (Value.object id xs).TellsContent := by
  have hread : ∀ f ∈ xs, ∀ (g : String × Value) (ts us : List Token),
      (.field f.1 :: f.2.contentTokens) ++ ts = (.field g.1 :: g.2.contentTokens) ++ us →
        Keyed.Like SameContent f g ∧ ts = us := by
    intro f hf g ts us h
    simp only [List.cons_append, List.cons.injEq, Token.field.injEq] at h
    obtain ⟨hvalue, hrest⟩ := hxs f hf g.2 ts us h.2
    exact ⟨⟨h.1, hvalue⟩, hrest⟩
  intro w ts us h
  cases w with
  | object id' ys =>
    simp only [contentTokens, fieldTokens_eq_flatMap, List.cons_append, List.cons.injEq,
      Token.count.injEq, true_and] at h
    obtain ⟨hall, htail⟩ := forall₂_of_flatMap_append hread h.1 h.2
    exact ⟨(sameContent_object _ _ _ _).mpr hall, htail⟩
  | _ => simp [contentTokens] at h

theorem map {id : Ident} {xs : List (Value × Value)}
    (hxs : ∀ e ∈ xs, e.1.TellsContent ∧ e.2.TellsContent) : (Value.map id xs).TellsContent := by
  have hread : ∀ e ∈ xs, ∀ (f : Value × Value) (ts us : List Token),
      (e.1.contentTokens ++ e.2.contentTokens) ++ ts
          = (f.1.contentTokens ++ f.2.contentTokens) ++ us →
        EntryLike SameContent e f ∧ ts = us := by
    intro e he f ts us h
    obtain ⟨htellsKey, htellsValue⟩ := hxs e he
    rw [List.append_assoc, List.append_assoc] at h
    obtain ⟨hkey, hbehindKey⟩ := htellsKey f.1 _ _ h
    obtain ⟨hvalue, hrest⟩ := htellsValue f.2 _ _ hbehindKey
    exact ⟨⟨hkey, hvalue⟩, hrest⟩
  intro w ts us h
  cases w with
  | map id' ys =>
    simp only [contentTokens, entryTokens_eq_flatMap, List.cons_append, List.cons.injEq,
      Token.count.injEq, true_and] at h
    obtain ⟨hall, htail⟩ := forall₂_of_flatMap_append hread h.1 h.2
    exact ⟨(sameContent_map _ _ _ _).mpr hall, htail⟩
  | _ => simp [contentTokens] at h

end TellsContent

/-- **The tokens of every value tell its content and where they end.** -/
theorem tellsContent (v : Value) : v.TellsContent := by
  induction v using Value.induction with
  | node v ih =>
    by_cases hv : v.isComposite = false
    · exact .plain hv
    · cases v with
      | array id xs => exact .array ih
      | set id xs => exact .set ih
      | object id xs => exact .object (forall_mem_parts_object.mp ih)
      | map id xs => exact .map (forall_mem_parts_map.mp ih)
      | _ => exact absurd rfl hv

/-- **To have the same content is to read alike.** -/
theorem sameContent_iff_tokens {v w : Value} :
    v.SameContent w ↔ v.contentTokens = w.contentTokens := by
  refine ⟨contentTokens_eq_of_sameContent, fun h => ?_⟩
  have happend : v.contentTokens ++ [] = w.contentTokens ++ [] := by rw [h]
  exact (v.tellsContent w [] [] happend).1

/-- **To have the same content is an equivalence relation** on all values. -/
theorem sameContent_equivalence : Equivalence SameContent where
  refl := sameContent_refl
  symm h := sameContent_iff_tokens.mpr (sameContent_iff_tokens.mp h).symm
  trans h h' :=
    sameContent_iff_tokens.mpr ((sameContent_iff_tokens.mp h).trans (sameContent_iff_tokens.mp h'))

end Value

namespace Cache

/-! ## A look-up behind a store -/

/-- In an empty cache that goes by content, what was stored for one content is not given out for
another one. -/
theorem get_set_of_other {c : Cache} (hempty : c.entries = [])
    (hmode : c.config.fingerprint = .structural) {v w : Value} (h : ¬ v.SameContent w)
    (now later : Nat) (schemaId : String) (verdict : Verdict) :
    ((c.set now v schemaId verdict).get later w schemaId).1 = none := by
  by_contra hfound
  obtain ⟨found, hget⟩ := Option.ne_none_iff_exists'.mp hfound
  obtain ⟨e, hmem, hbelongs, -⟩ := get_eq_some hget
  -- the one entry that is there is the one just stored
  have hentry : e = ⟨v, verdict, c.config.timeToLiveMs.map (now + ·)⟩ := by
    have hwrite : (c.set now v schemaId verdict).entries
        = Recency.write c.config.capacity (c.keyOf v schemaId)
          ⟨v, verdict, c.config.timeToLiveMs.map (now + ·)⟩ [] := by
      rw [← hempty]
      rfl
    rw [hwrite] at hmem
    rcases Recency.mem_of_mem_write hmem with heq | ⟨hnil, -⟩
    · exact congrArg Prod.snd heq
    · exact absurd hnil List.not_mem_nil
  have hconfig : (c.set now v schemaId verdict).config.fingerprint = .structural := hmode
  unfold belongs at hbelongs
  rw [hconfig, hentry] at hbelongs
  exact h hbelongs

/-- **Fingerprints of content never miss a copy.** To have the same content is an equivalence
relation. Two values have the same content exactly if a hash of contents reads one sequence of
both, so every such hash gives them one fingerprint. And whatever the hash, an empty cache that
goes by content and lets nothing grow old gives out what was just stored for one value exactly for
the values that have the same content. -/
theorem get_set_sameContent :
    Equivalence Value.SameContent
      ∧ (∀ v w : Value, v.SameContent w ↔ v.contentTokens = w.contentTokens)
      ∧ (∀ (contentHash : ContentHash) (v w : Value), v.SameContent w →
        Fingerprint.ofValue contentHash .structural v
          = Fingerprint.ofValue contentHash .structural w)
      ∧ ∀ c : Cache, c.entries = [] → c.config.fingerprint = .structural →
        c.config.timeToLiveMs = none →
        ∀ (now later : Nat) (v w : Value) (schemaId : String) (verdict : Verdict),
          ((c.set now v schemaId verdict).get later w schemaId).1
            = if v.sameContent w then some verdict else none := by
  refine ⟨Value.sameContent_equivalence, fun v w => Value.sameContent_iff_tokens,
    fun contentHash v w h => FingerprintMode.ofValue_eq_of_same contentHash h, ?_⟩
  intro c hempty hmode hage now later v w schemaId verdict
  by_cases h : v.SameContent w
  · have hsame : c.config.fingerprint.Same v w := by
      rw [hmode]
      exact h
    have hlive : ∀ ms, c.config.timeToLiveMs = some ms → later < now + ms := by
      intro ms hms
      rw [hage] at hms
      cases hms
    have hcontent : v.sameContent w = true := h
    rw [get_set_of_same hlive hsame, if_pos hcontent]
  · have hcontent : ¬ v.sameContent w = true := h
    rw [get_set_of_other hempty hmode h, if_neg hcontent]

/-- The law where all contents have one hash: a copy of what was stored hits, and a value that
differs in the sign of a zero misses although it is looked up under the same key. -/
theorem get_set_sameContent_colliding :
    let c := emptyWith (fun _ => 0) ⟨.lru, some 0, none, .structural⟩
    let stored : Value :=
      .object (.given 0) [("at", .array (.given 1) [.number Double.nan, .number Double.zero])]
    let copy : Value :=
      .object (.given 2) [("at", .array (.given 3) [.number Double.nan, .number Double.zero])]
    let other : Value :=
      .object (.given 4)
        [("at", .array (.given 5) [.number Double.nan, .number Double.negativeZero])]
    c.entries = [] ∧ c.config.fingerprint = .structural ∧ c.config.timeToLiveMs = none
      ∧ stored.SameContent copy ∧ stored.contentTokens = copy.contentTokens
      ∧ c.keyOf other "at" = c.keyOf stored "at"
      ∧ ((c.set 0 stored "at" (.ok stored)).get 1 copy "at").1 = some (.ok stored)
      ∧ ((c.set 0 stored "at" (.ok stored)).get 1 other "at").1 = none := by
  intro c stored copy other
  obtain ⟨-, htokens, -, hget⟩ := get_set_sameContent
  have hread : stored.contentTokens = copy.contentTokens := rfl
  have hsame : stored.sameContent copy = true := (htokens stored copy).mpr hread
  have hdiffer : stored.sameContent other = false := by
    rw [← Bool.not_eq_true]
    exact fun h => absurd ((htokens stored other).mp h) (by decide)
  have hcopy := hget c rfl rfl rfl 0 1 stored copy "at" (.ok stored)
  have hother := hget c rfl rfl rfl 0 1 stored other "at" (.ok stored)
  rw [hsame] at hcopy
  rw [hdiffer] at hother
  exact ⟨rfl, rfl, rfl, hsame, hread, rfl, hcopy, hother⟩

end Cache

end ValueSchema
