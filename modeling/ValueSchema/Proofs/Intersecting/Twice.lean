/-
A schema intersected with itself.

Both branches judge one value, and each builds its own copy of the output. The two copies are one
output under two renamings, which differ on what was built and on nothing else. Objects and arrays
are merged part by part and so come back as they are, a NaN in them included. A map or a set is
merged with its copy only if the two are equal, and they are not if a NaN lies in them behind built
containers only, since then no identity stands in for equality. So an intersection of a schema with
itself changes nothing, up to a conflict on exactly these outputs.
-/
import ValueSchema.Proofs.Intersecting.Branches

set_option autoImplicit false

namespace ValueSchema

open List (Forall₂)

/-! ## Copies part by part -/

namespace Value

variable {v w : Value}

/-- A value is copied if it has the frame and the keys of the copy, and its parts are copied. -/
theorem copies_of_parts (hframe : w.frame = v.frame) (hkeys : w.ownKeys = v.ownKeys)
    (hv : v.ownKeys.Nodup)
    (h : ∀ step x y, v.part? step = some x → w.part? step = some y → x.Copies y) :
    v.Copies w := by
  -- related elements at every position, as there are as many on both sides
  have hitems : ∀ {xs ys : List Value}, ys.length = xs.length →
      (∀ (n : Nat) (x y : Value), xs[n]? = some x → ys[n]? = some y → x.Copies y) →
      Forall₂ Copies xs ys := by
    intro xs ys hlen hall
    rw [forall₂_iff_getElem? hlen]
    intro n x hx
    have hn : n < ys.length := hlen ▸ (List.getElem?_eq_some_iff.mp hx).1
    exact ⟨ys[n], List.getElem?_eq_getElem hn, hall n x _ hx (List.getElem?_eq_getElem hn)⟩
  cases v with
  | array id xs =>
    obtain ⟨id', ys, rfl, hlen⟩ := frame_array hframe
    exact (copies_array _ _ _ _).mpr (hitems hlen fun n => h (.element n))
  | set id xs =>
    obtain ⟨id', ys, rfl, hlen⟩ := frame_set hframe
    exact (copies_set _ _ _ _).mpr (hitems hlen fun n => h (.element n))
  | map id xs =>
    obtain ⟨id', ys, rfl, hlen⟩ := frame_map hframe
    rw [copies_map, forall₂_iff_getElem? hlen]
    intro n e he
    have hn : n < ys.length := hlen ▸ (List.getElem?_eq_some_iff.mp he).1
    have he' : ys[n]? = some ys[n] := List.getElem?_eq_getElem hn
    refine ⟨ys[n], he', ?_, ?_⟩
    · exact h (.entryKey n) _ _ (Option.map_eq_some_iff.mpr ⟨e, he, rfl⟩)
        (Option.map_eq_some_iff.mpr ⟨_, he', rfl⟩)
    · exact h (.entryValue n) _ _ (Option.map_eq_some_iff.mpr ⟨e, he, rfl⟩)
        (Option.map_eq_some_iff.mpr ⟨_, he', rfl⟩)
  | object id xs =>
    obtain ⟨id', ys, rfl⟩ := frame_object hframe
    have hkeys : ys.map Prod.fst = xs.map Prod.fst := hkeys
    have hlen : ys.length = xs.length := by
      simpa only [List.length_map] using congrArg List.length hkeys
    have hnodup : (ys.map Prod.fst).Nodup := hkeys ▸ hv
    rw [copies_object, forall₂_iff_getElem? hlen]
    intro n e he
    have hn : n < ys.length := hlen ▸ (List.getElem?_eq_some_iff.mp he).1
    have he' : ys[n]? = some ys[n] := List.getElem?_eq_getElem hn
    have hkey : ys[n].1 = e.1 := by
      have hboth := congrArg (fun l => l[n]?) hkeys
      simp only [List.getElem?_map, he, he', Option.map_some, Option.some.injEq] at hboth
      exact hboth
    refine ⟨ys[n], he', hkey.symm, h (.field e.1) _ _ ?_ ?_⟩
    · exact Keyed.find?_of_mem hv (List.mem_of_getElem? he)
    · rw [← hkey]
      exact Keyed.find?_of_mem hnodup (List.mem_of_getElem? he')
  | _ =>
    rw [eq_of_frame_eq hframe rfl]
    exact copies_refl _

end Value

namespace Intersection

/-! ## What is not equal to its copy -/

section

variable {f g : Ident → Ident} {made : Ident → Prop} {s : Site} {v : Value}

/-- A NaN lies in a value, behind containers that were built only. -/
inductive NanWithin (made : Ident → Prop) : Value → Prop
  | nan {n : Double} (h : n.isNaN = true) : NanWithin made (.number n)
  | part {v p : Value} (built : v.Built made) (hp : p ∈ v.parts) (h : NanWithin made p) :
      NanWithin made v

/-- Behind objects and arrays that were built only, a map or a set was built with a NaN in it. -/
inductive Irreconcilable (made : Ident → Prop) : Value → Prop
  | whole {v : Value} (built : v.Built made) (whole : ¬ MergesParts v) (h : NanWithin made v) :
      Irreconcilable made v
  | part {v p : Value} (built : v.Built made) (merges : MergesParts v) (hp : p ∈ v.parts)
      (h : Irreconcilable made p) : Irreconcilable made v

theorem Irreconcilable.nanWithin (h : Irreconcilable made v) : NanWithin made v := by
  induction h with
  | whole _ _ h => exact h
  | part built _ hp _ ih => exact .part built hp ih

theorem Irreconcilable.built (h : Irreconcilable made v) : v.Built made := by
  cases h <;> assumption

theorem isComposite_of_built (h : v.Built made) : v.isComposite = true := by
  obtain ⟨id, hid, _⟩ := h
  rw [Value.isComposite, hid, Option.isSome_some]

theorem nanWithin_iff (hv : v.isComposite = true) :
    NanWithin made v ↔ v.Built made ∧ ∃ p ∈ v.parts, NanWithin made p := by
  constructor
  · intro h
    cases h with
    | nan h => cases hv
    | part built hp h => exact ⟨built, _, hp, h⟩
  · rintro ⟨hbuilt, p, hp, h⟩
    exact .part hbuilt hp h

theorem nanWithin_iff_plain (hv : v.isComposite = false) :
    NanWithin made v ↔ v.normal = .number Double.nan := by
  constructor
  · intro h
    cases h with
    | nan h => exact congrArg (fun w => Value.number ⟨w⟩) (Double.keyWord_of_isNaN h)
    | part built _ _ =>
      rw [isComposite_of_built built] at hv
      cases hv
  · intro h
    cases v with
    | number n =>
      rw [Value.normal, Value.number.injEq] at h
      exact .nan (Double.isNaN_of_keyWord (congrArg Double.bits h))
    | _ => cases h

variable (hmade : ∀ id, made id ↔ f id ≠ g id)
include hmade

/-- Two renamed containers have one identity unless the container was built. -/
theorem ident?_rename_eq_iff (v : Value) :
    (v.rename f).ident? = (v.rename g).ident? ↔ ¬ v.Built made := by
  rw [Value.ident?_rename, Value.ident?_rename, Value.Built]
  cases v.ident? with
  | none => simp
  | some id => simp [hmade id]

/-- **A value is equal to its copy** exactly if no NaN lies in it behind built containers only. -/
theorem equal_renamed_iff (v : Value) : v.WellKeyed →
    ((v.rename f).equal (v.rename g) = true ↔ ¬ NanWithin made v) := by
  induction v using Value.induction with
  | node v ih =>
    intro hkeyed
    by_cases hv : v.isComposite = true
    · have hframe : (v.rename g).frame = (v.rename f).frame := by
        rw [Value.frame_rename, Value.frame_rename]
      have hcomposite : (v.rename f).isComposite = true := by rw [Value.isComposite_rename, hv]
      have hstep : ∀ {step : Step} {p : Value}, v.part? step = some p →
          ((p.rename f).equal (p.rename g) = true ↔ ¬ NanWithin made p) := fun hp =>
        ih _ (Value.mem_parts_of_part? hp) (hkeyed.part hp)
      rw [Value.equal_iff hframe hcomposite (hkeyed.rename f).nodup_ownKeys,
        ident?_rename_eq_iff hmade, nanWithin_iff hv]
      constructor
      · rintro h ⟨hbuilt, p, hp, hnan⟩
        rcases h with hold | ⟨_, hparts⟩
        · exact hold hbuilt
        obtain ⟨step, hpart⟩ := Value.exists_step hkeyed.nodup_ownKeys hp
        obtain ⟨y, hy, hequal⟩ := hparts step (p.rename f) (by
          rw [Value.part?_rename, hpart, Option.map_some])
        rw [Value.part?_rename, hpart, Option.map_some] at hy
        cases hy
        exact (hstep hpart).mp hequal hnan
      · intro h
        by_cases hbuilt : v.Built made
        · refine .inr ⟨by rw [Value.ownKeys_rename, Value.ownKeys_rename], fun step x hx => ?_⟩
          rw [Value.part?_rename] at hx ⊢
          obtain ⟨p, hpart, rfl⟩ := Option.map_eq_some_iff.mp hx
          refine ⟨p.rename g, by rw [hpart, Option.map_some], (hstep hpart).mpr fun hnan => ?_⟩
          exact h ⟨hbuilt, p, Value.mem_parts_of_part? hpart, hnan⟩
        · exact .inl hbuilt
    · rw [Bool.not_eq_true] at hv
      rw [Value.rename_of_plain hv, Value.rename_of_plain hv, Value.equal_iff_normal hv,
        nanWithin_iff_plain hv, and_iff_right rfl]

/-- **A value can be merged with its copy** exactly if it is not irreconcilable. -/
theorem compatible_renamed_iff (v : Value) : v.WellKeyed →
    (Compatible (v.rename f) (v.rename g) ↔ ¬ Irreconcilable made v) := by
  induction v using Value.induction with
  | node v ih =>
    intro hkeyed
    by_cases hv : v.isComposite = true
    · have hcomposite : (v.rename f).isComposite = true := by rw [Value.isComposite_rename, hv]
      have hagree : agree (v.rename f) (v.rename g) = true ↔ ¬ NanWithin made v := by
        rw [agree_composite hcomposite, equal_renamed_iff hmade v hkeyed]
      have hframe : (v.rename f).frame = v.frame := Value.frame_rename v
      constructor
      · intro h hirr
        cases h with
        | agree h => exact hagree.mp h hirr.nanWithin
        | parts _ hmerges hparts =>
          have hmerges := mergesParts_of_frame_eq hframe.symm hmerges
          cases hirr with
          | whole _ hwhole _ => exact hwhole hmerges
          | part _ _ hp hirr =>
            obtain ⟨step, hpart⟩ := Value.exists_step hkeyed.nodup_ownKeys hp
            refine (ih _ hp (hkeyed.part hpart)).mp (hparts step _ _ ?_ ?_) hirr <;>
              rw [Value.part?_rename, hpart, Option.map_some]
      · intro h
        by_cases hnan : NanWithin made v
        · have hbuilt := ((nanWithin_iff hv).mp hnan).1
          -- a NaN that equality does not get past lies in an object or an array
          have hmerges : MergesParts v := by
            by_contra hwhole
            exact h (.whole hbuilt hwhole hnan)
          refine .parts ?_ (mergesParts_of_frame_eq hframe hmerges) fun step p' q' hp' hq' => ?_
          · rw [Value.frame_rename, Value.frame_rename]
          · rw [Value.part?_rename] at hp' hq'
            obtain ⟨p, hpart, rfl⟩ := Option.map_eq_some_iff.mp hp'
            rw [hpart, Option.map_some, Option.some.injEq] at hq'
            subst hq'
            refine (ih p (Value.mem_parts_of_part? hpart) (hkeyed.part hpart)).mpr fun hirr => ?_
            exact h (.part hbuilt hmerges (Value.mem_parts_of_part? hpart) hirr)
        · exact .agree (hagree.mpr hnan)
    · rw [Bool.not_eq_true] at hv
      rw [Value.rename_of_plain hv, Value.rename_of_plain hv]
      refine iff_of_true (.agree (agree_self v)) fun hirr => ?_
      rw [isComposite_of_built hirr.built] at hv
      cases hv

end

/-! ## What a value and its copy are merged into -/

section

variable {s : Site} {a b m : Value}

/-- Fields whose keys are all there already are written in their places. -/
theorem keys_mergeFields {left right : List (String × Value)} :
    ∀ {n : Nat} {merged out : List (String × Value)}, Keyed.keys right ⊆ Keyed.keys merged →
    mergeFields s left n merged right = some out → Keyed.keys out = Keyed.keys merged := by
  induction right with
  | nil =>
    intro n merged out _ h
    cases h
    rfl
  | cons e rest ih =>
    obtain ⟨key, q⟩ := e
    intro n merged out hsub h
    obtain ⟨z, _, hrest⟩ := mergeFields_cons h
    have hkeys := Keyed.keys_insert_of_mem key z merged (hsub List.mem_cons_self)
    rw [← hkeys] at hsub ⊢
    exact ih (fun k hk => hsub (List.mem_cons_of_mem key hk)) hrest

theorem ownKeys_merge (hsub : b.ownKeys ⊆ a.ownKeys) (h : merge s a b = some m) :
    m.ownKeys = a.ownKeys := by
  rcases merge_eq_some h with
    rfl | ⟨id, left, id', right, fields, rfl, rfl, hf, rfl⟩
      | ⟨id, left, id', right, items, rfl, rfl, hi, rfl⟩
  · rfl
  · exact keys_mergeFields hsub hf
  · rfl

/-- **A value merged with its copy** is one more copy. -/
theorem copies_of_merge_renamed {f g : Ident → Ident} (v : Value) : ∀ {s : Site} {m : Value},
    v.WellKeyed → merge s (v.rename f) (v.rename g) = some m → v.Copies m := by
  induction v using Value.induction with
  | node v ih =>
    intro s m hkeyed h
    rcases merge_cases_of_wellKeyed (hkeyed.rename f) (hkeyed.rename g) h with ⟨_, rfl⟩
      | ⟨_, _, hframe, hparts⟩
    · exact Value.copies_rename v
    have hkeys : m.ownKeys = v.ownKeys := by
      rw [ownKeys_merge ?_ h, Value.ownKeys_rename]
      rw [Value.ownKeys_rename, Value.ownKeys_rename]
      exact List.Subset.refl _
    refine Value.copies_of_parts (hframe.trans (Value.frame_rename v)) hkeys hkeyed.nodup_ownKeys
      fun step x y hx hy => ?_
    have hpart := hparts step
    rw [Value.part?_rename, Value.part?_rename, hx, hy, Option.map_some, Option.map_some] at hpart
    obtain ⟨n, z, hz, hyz⟩ := hpart.eq_both
    cases hyz
    exact ih x (Value.mem_parts_of_part? hx) (hkeyed.part hx) hz

end

end Intersection

/-! ## Verdicts of both branches -/

namespace Ident

theorem append_branch_injective (n : Nat) : Function.Injective fun place : Place => place ++ [n] :=
  fun _ _ h => List.append_inj_left' h rfl

/-- What is built at the root of a run is built in a branch of it. -/
theorem moved_root_carried (run n : Nat) :
    (Site.root run).Carried (moved run fun place => place ++ [n]) ((Site.root run).child n) := by
  intro place
  show moved run _ (made run (place ++ [])) = made run (place ++ [n])
  rw [moved_made, List.append_nil]

/-- The two branches have different names for what is built in the run, and for nothing else. -/
theorem makes_root_iff (run : Nat) (id : Ident) : (Site.root run).Makes id
    ↔ moved run (fun place => place ++ [0]) id ≠ moved run (fun place => place ++ [1]) id := by
  constructor
  · rintro ⟨place, _, rfl⟩ h
    have hplace : place ++ [0] = place ++ [1] := by
      rw [Site.root, moved_made, moved_made] at h
      exact (made.inj h).2
    cases List.append_cancel_left hplace
  · intro h
    cases id with
    | given n => exact absurd rfl h
    | made r place =>
      by_cases hr : r = run
      · exact ⟨place, List.nil_suffix, congrArg (made · place) hr⟩
      · rw [moved_of_ne _ place hr, moved_of_ne _ place hr] at h
        exact absurd rfl h

end Ident

/-- The verdict of two branches that are one schema, given the verdict of the schema: every issue
twice, up to the identities in it, or a copy of the output, unless the output cannot be merged with
its copy. -/
inductive Verdict.Twice (made : Ident → Prop) (c : Context) : Verdict → Verdict → Prop
  | ok {v w : Value} (merges : ¬ Intersection.Irreconcilable made v) (h : v.Copies w) :
      Twice made c (.ok v) (.ok w)
  | conflict {v : Value} (h : Intersection.Irreconcilable made v) :
      Twice made c (.ok v) (Verdict.reject (c.issue .intersectionConflict
        "Intersection results could not be merged"))
  | error {e f : Issues} (h : f.toList.map Issue.anonymous
      = e.toList.map Issue.anonymous ++ e.toList.map Issue.anonymous) :
      Twice made c (.error e) (.error f)

namespace Intersection

variable {f g : Ident → Ident} {made : Ident → Prop} {s : Site} {v : Value} {c : Context}

/-- Two outputs that are one output under two renamings. -/
theorem combine_copies (hmade : ∀ id, made id ↔ f id ≠ g id) {out : Value}
    (hkeyed : out.WellKeyed) :
    Verdict.Twice made c (.ok out) (combine s c [.ok (out.rename f), .ok (out.rename g)]) := by
  have hexists := exists_merge_iff (out.rename f) ((s.child 2).child 0) (hkeyed.rename f)
    (hkeyed.rename g)
  rw [compatible_renamed_iff hmade out hkeyed] at hexists
  rw [Schema.combine_pair]
  cases hm : merge ((s.child 2).child 0) (out.rename f) (out.rename g) with
  | none =>
    refine .conflict (not_not.mp fun hmerges => ?_)
    obtain ⟨m, h⟩ := hexists.mpr hmerges
    rw [hm] at h
    cases h
  | some m => exact .ok (hexists.mp ⟨m, hm⟩) (copies_of_merge_renamed out hkeyed hm)

/-- Two rejections with the same issues. -/
theorem combine_rejections {e a b : Issues}
    (ha : e.toList.map Issue.anonymous = a.toList.map Issue.anonymous)
    (hb : e.toList.map Issue.anonymous = b.toList.map Issue.anonymous) :
    Verdict.Twice made c (.error e) (combine s c [.error a, .error b]) := by
  have hissues : Verdict.allIssues [.error a, .error b] = a.first :: (a.rest ++ b.toList) := by
    rw [Verdict.allIssues, List.flatMap_cons, List.flatMap_cons, List.flatMap_nil, List.append_nil]
    rfl
  simp only [combine, hissues, Issues.ofList?]
  refine .error ?_
  show (a.toList ++ b.toList).map Issue.anonymous = _
  rw [List.map_append, ← ha, ← hb]

/-- **Judging twice by one branch** comes to the verdict of the branch twice, if each of the two
places is carried over from the place of the intersection. -/
theorem judge_twice {j : Judge} (hmade : ∀ id, made id ↔ f id ≠ g id)
    (hkeyed : ∀ out, j s v c = some (.ok out) → out.WellKeyed)
    (hf : (Likeness.renamed f).answer (j s v c) (j (s.child 0) v c))
    (hg : (Likeness.renamed g).answer (j s v c) (j (s.child 1) v c)) :
    Option.Rel (Verdict.Twice made c) (j s v c) (judge [j, j] s v c) := by
  rcases hf.eq_or with ⟨hv, hnone⟩ | ⟨verdict, a, hv, ha, hva⟩
  · rw [hv, judge, judgeBranches, hnone]
    exact .none
  rcases hg.eq_or with ⟨hv', _⟩ | ⟨verdict', b, hv', hb, hvb⟩
  · rw [hv] at hv'
    cases hv'
  rw [hv] at hv'
  cases hv'
  rw [hv, Schema.intersection_judge_pair ha hb]
  refine .some ?_
  cases hva with
  | error hea =>
    cases hvb with
    | error heb => exact combine_rejections hea heb
  | ok hwa =>
    cases hvb with
    | ok hwb =>
      rw [← hwa, ← hwb]
      exact combine_copies hmade (hkeyed _ hv)

end Intersection

namespace Schema

variable {H : Heap} {v : Value}

/-- **A schema intersected with itself** comes to an answer exactly if the schema does, and accepts
a value with a copy of the output of the schema, or rejects it with the issues of the schema twice.
The one exception is an output with a map or a set in it that is built anew and not equal to its
copy: this is a conflict. -/
theorem validateIn_twice {schema : Schema} {family : Family} (hs : schema.Every (PureOver H))
    (hfamily : ∀ e ∈ family, e.2.Every (PureOver H)) (hv : v.MadeOf H.Holds)
    (hH : H.OlderThan (family.start schema v).run) (c : Context) :
    Option.Rel (Verdict.Twice (family.start schema v).Makes c) (schema.validateIn family v c)
      ((intersection [schema, schema]).validateIn family v c) := by
  have hbudget : family.budget (intersection [schema, schema]) v = family.budget schema v := by
    simp only [Family.budget, depthLimit, depthLimits, Nat.max_zero, Nat.max_self]
  have hstart : family.start (intersection [schema, schema]) v = family.start schema v := by
    simp only [Family.start, nextRun, nextRuns, Nat.max_zero, Nat.max_self]
  have halike := fun n => judged_alike (c := c) hs hfamily hv
    (Ident.moved_renaming (Ident.append_branch_injective n) hH) (Ident.moved_root_carried _ n)
    (family.budget schema v)
  rw [intersection_validateIn, hbudget, hstart]
  refine Intersection.judge_twice (Ident.makes_root_iff _) (fun out hout => ?_) (halike 0)
    (halike 1)
  -- whatever containers there are, an output is made of them
  have hdraws := resolved_drawsOn (hs.mono fun _ h => h.draws)
    (fun e he => (hfamily e he).mono fun _ h => h.draws) (family.budget schema v)
  have hallows : H.Allows (family.start schema v) fun _ => True :=
    ⟨fun _ _ => trivial, fun _ _ => trivial⟩
  exact (hdraws hallows (hv.mono fun _ _ => trivial) hout).wellKeyed

end Schema

/-! ## A NaN in an array and in a map -/

/-- Maps of anything to anything. -/
def Schema.anyMap : Schema := .map (.plain .any) (.plain .any) Limits.standard

/-- A map with a NaN in it is accepted, and is a conflict if it is to be accepted twice. -/
theorem Schema.anyMap_twice_conflicts :
    (Schema.anyMap.validate [] Value.nanMap).map Except.isOk = some true
      ∧ ((Schema.intersection [anyMap, anyMap]).validate [] Value.nanMap).map
          (fun verdict => verdict.issues.map Issue.code) = some [.intersectionConflict] := by
  constructor <;> decide +kernel

/-- Arrays of anything, with an array around each element. -/
def Schema.anyWrapped : Schema := .array (.modified (.transform Mapper.wrap) (.plain .any)) .any

/-- An array with a NaN in it. -/
def Value.nanRow : Value := .array (.given 0) [.number Double.nan]

/-- The array and nothing else. -/
def Heap.ofNanRow : Heap
  | .given 0 => some Value.nanRow
  | _ => none

theorem Value.nanRow_madeOf : Value.nanRow.MadeOf Heap.ofNanRow.Holds := by
  refine madeOf_array.mpr ⟨⟨.given 0, rfl, rfl⟩, fun v hv => ?_⟩
  cases List.mem_singleton.mp hv
  exact .of_plain rfl

theorem Heap.ofNanRow_olderThan (run : Nat) : Heap.ofNanRow.OlderThan run := by
  intro id v h
  cases id with
  | given n => exact Nat.zero_le run
  | made r place => cases h

theorem Schema.anyWrapped_pureOver (H : Heap) : Schema.anyWrapped.Every (PureOver H) := by
  refine .intro _ ⟨trivial, nofun, nofun, nofun⟩ fun t ht => ?_
  cases List.mem_singleton.mp
    (show t ∈ [Schema.modified (.transform Mapper.wrap) (.plain .any)] from ht)
  exact wrapped_pureOver (any_pureOver H)

/-- The array built anew, with the array that is built around the NaN. -/
def Value.builtRow : Value := .array (.made 0 []) [.array (.made 0 [1, 0]) [.number Double.nan]]

/-- A NaN in an array stays where it is when the array is accepted twice. -/
theorem Schema.anyWrapped_twice :
    Schema.anyWrapped.validateIn [] Value.nanRow Context.root = some (.ok Value.builtRow)
      ∧ ∃ out, (Schema.intersection [anyWrapped, anyWrapped]).validateIn [] Value.nanRow
        Context.root = some (.ok out) ∧ Value.builtRow.Copies out := by
  have hrow : Schema.anyWrapped.validateIn [] Value.nanRow Context.root
      = some (.ok Value.builtRow) := by cbv
  have htwice : ((Schema.intersection [anyWrapped, anyWrapped]).validateIn [] Value.nanRow
      Context.root).map Except.isOk = some true := by decide +kernel
  have hfamily : ∀ e ∈ ([] : Family), e.2.Every (PureOver Heap.ofNanRow) :=
    fun _ he => absurd he List.not_mem_nil
  have h := validateIn_twice (anyWrapped_pureOver _) hfamily Value.nanRow_madeOf
    (Heap.ofNanRow_olderThan _) Context.root
  rw [hrow] at h
  refine ⟨hrow, ?_⟩
  generalize (Schema.intersection [anyWrapped, anyWrapped]).validateIn [] Value.nanRow
    Context.root = answer at h htwice ⊢
  cases h with
  | some h =>
    cases h with
    | ok _ hcopies => exact ⟨_, rfl, hcopies⟩
    | conflict _ => cases htwice

end ValueSchema
