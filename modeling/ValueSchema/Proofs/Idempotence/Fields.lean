/-
Objects and records that are judged again.

An object is rebuilt field by field: a declared field that is missing stands as undefined, one
whose output is undefined is left out, and a field that is not declared is handed on or dropped.
The fields of a record are all declared, as it were. For a value in between, the field under a
declared key lies between the first output and the first input, whether it is present or not, so it
is accepted again.
-/
import ValueSchema.Proofs.Idempotence.Sequences

set_option autoImplicit false

namespace ValueSchema

open Value (Parallel TrimOf)

/-! ## Fields that may be missing -/

namespace Value

variable {v : Value} {id : Ident} {fields : List (String × Value)} {key : String}

/-- A value as the part that it makes of an object, where undefined makes none. -/
def defined? : Value → Option Value
  | undefined => none
  | v => some v

theorem defined?_eq_none (h : v.defined? = none) : v = undefined := by
  cases v <;> first | rfl | cases h

theorem defined?_eq_some {w : Value} (h : v.defined? = some w) : v = w := by
  cases v <;> cases h
  all_goals rfl

theorem defined?_eq_or (v : Value) : v = undefined ∨ v.defined? = some v := by
  cases v <;> first | exact .inl rfl | exact .inr rfl

theorem wellKeyed_fieldOr (h : (object id fields).WellKeyed) : (fieldOr key fields).WellKeyed := by
  unfold fieldOr
  cases hx : Keyed.find? key fields with
  | none => exact .of_plain rfl
  | some x => exact @WellKeyed.part _ h (.field key) x hx

theorem nextRun_fieldOr_le : (fieldOr key fields).nextRun ≤ (object id fields).nextRun := by
  unfold fieldOr
  cases hx : Keyed.find? key fields with
  | none => exact Nat.zero_le _
  | some x => exact @nextRun_le_of_part? (object id fields) x (.field key) hx

theorem fieldOr_of_find? {x : Value} (h : Keyed.find? key fields = some x) :
    fieldOr key fields = x := by
  rw [fieldOr, h, Option.getD_some]

/-- Only what is there is something else than undefined. -/
theorem find?_of_fieldOr_ne (h : fieldOr key fields ≠ undefined) :
    Keyed.find? key fields = some (fieldOr key fields) := by
  unfold fieldOr at h ⊢
  cases hx : Keyed.find? key fields with
  | none =>
    rw [hx] at h
    exact absurd rfl h
  | some x => rfl

/-- The entry that an output makes under a key. -/
def entry (key : String) (z : Value) : List (String × Value) :=
  (z.defined?.map fun w => (key, w)).toList

theorem keys_entry_append {α : Type} (k : String) (z : Value) {zs : List (String × Value)}
    {xs : List (String × α)} (h : (Keyed.keys zs).Sublist (Keyed.keys xs)) (x : α) :
    (Keyed.keys (entry k z ++ zs)).Sublist (Keyed.keys ((k, x) :: xs)) := by
  unfold entry
  cases z.defined? with
  | none => exact h.cons k
  | some w => exact h.cons_cons k

theorem find?_entry_append_self {k : String} (z : Value) {zs : List (String × Value)}
    (h : Keyed.find? k zs = none) : Keyed.find? k (entry k z ++ zs) = z.defined? := by
  rw [Keyed.find?_append, h, Option.or_none]
  unfold entry
  cases z.defined? with
  | none => rfl
  | some w => exact Keyed.find?_cons_self k w []

theorem find?_entry_append_of_ne {k : String} (h : key ≠ k) (z : Value)
    (zs : List (String × Value)) : Keyed.find? key (entry k z ++ zs) = Keyed.find? key zs := by
  unfold entry
  cases z.defined? with
  | none => rfl
  | some w => exact Keyed.find?_cons_of_ne h w zs

variable {id' : Ident} {xs ys : List (String × Value)}

theorem TrimOf.field (h : (object id xs).TrimOf (object id' ys)) {x : Value}
    (hx : Keyed.find? key xs = some x) : ∃ y, Keyed.find? key ys = some y ∧ x.TrimOf y :=
  @TrimOf.part _ _ h (.field key) x hx

/-- What is missing in a value is missing in its trims. -/
theorem TrimOf.field_eq_none (h : (object id xs).TrimOf (object id' ys))
    (hy : Keyed.find? key ys = none) : Keyed.find? key xs = none := by
  refine Option.eq_none_iff_forall_ne_some.mpr fun x hx => ?_
  obtain ⟨y, hy', _⟩ := h.field hx
  rw [hy] at hy'
  cases hy'

end Value

/-- The fields of an output are those that the judges in charge made of declared fields, where one
that comes to undefined is left out, and all other fields, if these are handed on. -/
structure FieldsJudged (judges : String → Judge) (contexts : String → Context)
    (declared : List String) (handsOn : Bool) (s : Site) (xs zs : List (String × Value)) :
    Prop where
  nodup : (Keyed.keys zs).Nodup
  judged : ∀ ⦃key : String⦄, key ∈ declared → ∃ s₁ z, s₁.Inside s
    ∧ judges key s₁ (fieldOr key xs) (contexts key) = some (.ok z)
    ∧ Keyed.find? key zs = z.defined?
  others : ∀ ⦃key : String⦄, key ∉ declared →
    Keyed.find? key zs = if handsOn then Keyed.find? key xs else none

namespace FieldsJudged

variable {judges : String → Judge} {contexts : String → Context} {declared declared' : List String}
  {handsOn : Bool} {s s' : Site} {id id₁ id₂ id₃ : Ident} {xs ys zs ws : List (String × Value)}
  {key : String}

theorem trim (h : FieldsJudged judges contexts declared handsOn s xs zs)
    (hj : ∀ key, (judges key).Stable) (hv : (Value.object id xs).WellKeyed)
    (hrun : (Value.object id xs).nextRun ≤ s.run) :
    (Value.object id₁ zs).TrimOf (.object id xs) := by
  refine .of_parts rfl fun step z hz => ?_
  cases step with
  | field key =>
    have hz : Keyed.find? key zs = some z := hz
    by_cases hkey : key ∈ declared
    · obtain ⟨s₁, z', hs, hjudge, hz'⟩ := h.judged hkey
      rw [hz] at hz'
      obtain rfl := Value.defined?_eq_some hz'.symm
      have htrim := (hj key hjudge (Value.wellKeyed_fieldOr hv)
        (hs.run_eq ▸ Value.nextRun_fieldOr_le.trans hrun)).1
      refine ⟨_, Value.find?_of_fieldOr_ne fun hx => ?_, htrim⟩
      -- an output of undefined is undefined and would not be there
      rw [hx] at htrim
      rw [htrim.eq_of_plain rfl] at hz'
      cases hz'
    · have hkept := h.others hkey
      rw [hz] at hkept
      cases handsOn with
      | true => exact ⟨z, hkept.symm, .refl z⟩
      | false => cases hkept
  | _ => cases hz

/-- The field of a value in between lies between the output of the field and its input. -/
theorem between {z : Value} (hz : Keyed.find? key zs = z.defined?)
    (hzx : z.TrimOf (fieldOr key xs)) (hom : (Value.object id₁ zs).TrimOf (.object id₂ ys))
    (hmv : (Value.object id₂ ys).TrimOf (.object id xs)) :
    z.TrimOf (fieldOr key ys) ∧ (fieldOr key ys).TrimOf (fieldOr key xs) := by
  have hundefined : z = .undefined → fieldOr key xs = .undefined := fun h =>
    Value.eq_of_frame_eq (hzx.frame_eq.symm.trans (congrArg Value.frame h)) rfl
  cases hy : Keyed.find? key ys with
  | none =>
    -- what is missing in between is missing in the output
    have hz0 := Value.defined?_eq_none (hz.symm.trans (hom.field_eq_none hy))
    rw [show fieldOr key ys = .undefined by simp only [fieldOr, hy, Option.getD_none],
      hundefined hz0, hz0]
    exact ⟨.refl _, .refl _⟩
  | some y =>
    obtain ⟨x, hx, hyx⟩ := hmv.field hy
    rw [Value.fieldOr_of_find? hy]
    rw [Value.fieldOr_of_find? hx] at hundefined ⊢
    refine ⟨?_, hyx⟩
    rcases z.defined?_eq_or with rfl | hsome
    · -- a field that came to undefined was undefined, and still is
      rw [hyx.eq_of_plain (by rw [hundefined rfl]; rfl), hundefined rfl]
      exact .refl _
    · exact @TrimOf.parts_trim _ _ hom (.field key) z y (hz.trans hsome) hy

/-- The judges in charge accept the declared fields of a value in between. -/
theorem again (h : FieldsJudged judges contexts declared handsOn s xs zs)
    (hj : ∀ key, (judges key).Stable) (hv : (Value.object id xs).WellKeyed)
    (hrun : (Value.object id xs).nextRun ≤ s.run) (hm : (Value.object id₂ ys).WellKeyed)
    (hrun' : (Value.object id₂ ys).nextRun ≤ s'.run)
    (hom : (Value.object id₁ zs).TrimOf (.object id₂ ys))
    (hmv : (Value.object id₂ ys).TrimOf (.object id xs)) (hkey : key ∈ declared) {s₁ : Site}
    (hs₁ : s₁.Inside s') : ∃ w, judges key s₁ (fieldOr key ys) (contexts key) = some (.ok w) := by
  obtain ⟨s₂, z, hs, hjudge, hz⟩ := h.judged hkey
  obtain ⟨hzx, hagain⟩ := hj key hjudge (Value.wellKeyed_fieldOr hv)
    (hs.run_eq ▸ Value.nextRun_fieldOr_le.trans hrun)
  obtain ⟨hzy, hyx⟩ := between hz hzx hom hmv
  obtain ⟨w, hw, _⟩ := hagain s₁ (Value.wellKeyed_fieldOr hm)
    (hs₁.run_eq ▸ Value.nextRun_fieldOr_le.trans hrun') hzy hyx
  exact ⟨w, hw⟩

/-- Rebuilding an object and rebuilding one in between is parallel. Keys that are declared the first
time only are missing the second time. -/
theorem parallel (h : FieldsJudged judges contexts declared handsOn s xs zs)
    (h' : FieldsJudged judges contexts declared' handsOn s' ys ws) (hj : ∀ key, (judges key).Stable)
    (hsub : declared' ⊆ declared)
    (hrest : ∀ key ∈ declared, key ∉ declared' → Keyed.find? key ys = none)
    (hv : (Value.object id xs).WellKeyed) (hrun : (Value.object id xs).nextRun ≤ s.run)
    (hm : (Value.object id₂ ys).WellKeyed) (hrun' : (Value.object id₂ ys).nextRun ≤ s'.run)
    (hom : (Value.object s.ident zs).TrimOf (.object id₂ ys))
    (hmv : (Value.object id₂ ys).TrimOf (.object id xs)) :
    Parallel s.Makes s'.Makes (.object id xs) (.object id₂ ys) (.object s.ident zs)
      (.object s'.ident ws) := by
  refine .of_built rfl rfl rfl ⟨_, rfl, s.makes_ident⟩ ⟨_, rfl, s'.makes_ident⟩ h.nodup h'.nodup
    fun step => ?_
  cases step with
  | field key =>
    simp only [Value.part?]
    by_cases hkey' : key ∈ declared'
    · obtain ⟨s₁, z, hs, hjudge, hz⟩ := h.judged (hsub hkey')
      obtain ⟨s₂, w, hs', hjudge', hw⟩ := h'.judged hkey'
      have hzx := (hj key hjudge (Value.wellKeyed_fieldOr hv)
        (hs.run_eq ▸ Value.nextRun_fieldOr_le.trans hrun)).1
      obtain ⟨hzy, hyx⟩ := between hz hzx hom hmv
      have hpar := (hj key).parallel hs hs' hjudge hjudge' (Value.wellKeyed_fieldOr hv)
        (Value.nextRun_fieldOr_le.trans hrun) (Value.wellKeyed_fieldOr hm)
        (Value.nextRun_fieldOr_le.trans hrun') hzy hyx
      rw [hz, hw]
      by_cases hx : fieldOr key xs = .undefined
      · -- all four fields are undefined
        rw [hx] at hzx hyx hpar
        obtain rfl := hzx.eq_of_plain rfl
        obtain rfl := Value.eq_of_frame_eq
          (hpar.symm.frame_eq.trans (congrArg Value.frame (hyx.eq_of_plain rfl))) rfl
        exact .inl ⟨rfl, rfl⟩
      · have hne : ∀ {u : Value}, u.frame = (fieldOr key xs).frame → u ≠ .undefined := by
          rintro u hu rfl
          exact hx (Value.eq_of_frame_eq hu.symm rfl)
        refine .inr ⟨_, _, z, w, Value.find?_of_fieldOr_ne hx,
          Value.find?_of_fieldOr_ne (hne hyx.frame_eq), ?_, ?_, hpar⟩
        · exact z.defined?_eq_or.resolve_left (hne hzx.frame_eq)
        · exact w.defined?_eq_or.resolve_left
            (hne (hpar.symm.frame_eq.trans hyx.frame_eq))
    · rw [h'.others hkey']
      by_cases hkey : key ∈ declared
      · have hnone := hrest key hkey hkey'
        rw [hom.field_eq_none hnone, hnone, ite_self]
        exact .inl ⟨rfl, rfl⟩
      · rw [h.others hkey]
        cases handsOn with
        | false => exact .inl ⟨rfl, rfl⟩
        | true =>
          rw [if_pos rfl, if_pos rfl]
          cases hx : Keyed.find? key xs with
          | none => exact .inl ⟨rfl, hmv.field_eq_none hx⟩
          | some x =>
            -- a field that is handed on is in the output, so it is in between
            have hz := (h.others hkey).trans ((if_pos rfl).trans hx)
            obtain ⟨y, hy, hxy⟩ := hom.field hz
            refine .inr ⟨x, y, x, y, rfl, hy, rfl, hy, ?_⟩
            exact Parallel.handed_on x y (@Value.WellKeyed.part _ hv (.field key) x hx)
              (@Value.WellKeyed.part _ hm (.field key) y hy) hxy
              (@TrimOf.parts_trim _ _ hmv (.field key) y x hy hx)
  | _ => exact .inl ⟨rfl, rfl⟩

end FieldsJudged

/-! ## Objects -/

namespace Shape

variable {s : Site} {c : Context} {input : List (String × Value)}

theorem fieldOutputs_cons_ok (key : String) (z : Value) (l : List (String × Verdict)) :
    fieldOutputs ((key, .ok z) :: l) = z.entry key ++ fieldOutputs l := by
  cases z <;> rfl

/-- The outputs of declared fields, found under their keys. -/
theorem judgeFields_ok {fields : List (String × Judge)} : ∀ {n : Nat} {l : List (String × Verdict)},
    judgeFields s c input n fields = some l → Verdict.allIssues (l.map Prod.snd) = [] →
    (Keyed.keys fields).Nodup → (Keyed.keys (fieldOutputs l)).Sublist (Keyed.keys fields)
      ∧ ∀ (key : String) (j : Judge), Keyed.find? key fields = some j → ∃ i z,
        j (s.child i) (fieldOr key input) (c.childKey key) = some (.ok z)
          ∧ Keyed.find? key (fieldOutputs l) = z.defined? := by
  induction fields with
  | nil =>
    intro n l hl _ _
    cases hl
    exact ⟨.slnil, nofun⟩
  | cons f rest ih =>
    obtain ⟨k, judge⟩ := f
    intro n l hl hnone hnodup
    obtain ⟨verdict, hv, hl⟩ := Option.bind_eq_some_iff.mp hl
    obtain ⟨others, ho, hl⟩ := Option.bind_eq_some_iff.mp hl
    cases hl
    obtain ⟨⟨z, rfl⟩, hothers⟩ := Verdict.allIssues_cons_eq_nil hnone
    simp only [Keyed.keys, List.map_cons, List.nodup_cons] at hnodup
    obtain ⟨hsub, hfields⟩ := ih ho hothers hnodup.2
    rw [fieldOutputs_cons_ok]
    refine ⟨Value.keys_entry_append k z hsub judge, fun key j hj => ?_⟩
    by_cases hkey : key = k
    · subst hkey
      rw [Keyed.find?_cons_self] at hj
      cases hj
      -- no later field has this key, so no later output has
      exact ⟨n, z, hv, Value.find?_entry_append_self z
        (Keyed.find?_eq_none_iff.mpr fun hk => hnodup.1 (hsub.subset hk))⟩
    · rw [Keyed.find?_cons_of_ne hkey] at hj
      rw [Value.find?_entry_append_of_ne hkey]
      exact hfields key j hj

theorem judgeFields_of_ok {fields : List (String × Judge)}
    (h : ∀ f ∈ fields, ∀ i, ∃ z, f.2 (s.child i) (fieldOr f.1 input) (c.childKey f.1)
      = some (.ok z)) :
    ∀ n, ∃ l, judgeFields s c input n fields = some l
      ∧ Verdict.allIssues (l.map Prod.snd) = [] := by
  induction fields with
  | nil => exact fun _ => ⟨[], rfl, rfl⟩
  | cons f rest ih =>
    obtain ⟨key, judge⟩ := f
    intro n
    simp only [List.forall_mem_cons] at h
    obtain ⟨z, hz⟩ := h.1 n
    obtain ⟨others, hothers, hnone⟩ := ih h.2 (n + 1)
    refine ⟨(key, .ok z) :: others, ?_, ?_⟩
    · simp only [judgeFields]
      rw [hz, hothers]
      rfl
    · exact hnone

end Shape

/-! ### Fields that are not declared -/

theorem find?_undeclared (declared : List String) (key : String) (fields : List (String × Value)) :
    Keyed.find? key (undeclared declared fields)
      = if key ∈ declared then none else Keyed.find? key fields := by
  induction fields with
  | nil => exact (ite_self _).symm
  | cons f rest ih =>
    obtain ⟨k, v⟩ := f
    simp only [undeclared] at ih
    rw [undeclared, List.filter_cons]
    by_cases hkey : key = k
    · subst hkey
      rw [Keyed.find?_cons_self]
      by_cases hk : key ∈ declared
      · rw [if_neg (by simp [hk]), ih, if_pos hk, if_pos hk]
      · rw [if_pos (by simp [hk]), Keyed.find?_cons_self, if_neg hk]
    · rw [Keyed.find?_cons_of_ne hkey, ← ih]
      split
      · exact Keyed.find?_cons_of_ne hkey v _
      · rfl

theorem keys_undeclared_sublist (declared : List String) (fields : List (String × Value)) :
    (Keyed.keys (undeclared declared fields)).Sublist (Keyed.keys fields) :=
  List.filter_sublist.map _

theorem mem_undeclared {declared : List String} {fields : List (String × Value)}
    {f : String × Value} : f ∈ undeclared declared fields ↔ f ∈ fields ∧ f.1 ∉ declared := by
  simp [undeclared]

/-- Fields that are not declared and raise no issue raise none with fields left out. -/
theorem UnknownKeys.issues_of_trim {u : UnknownKeys} {limits : Limits} {c : Context}
    {declared : List String} {id id' : Ident} {xs ys : List (String × Value)}
    (hm : (Value.object id' ys).WellKeyed) (hmv : (Value.object id' ys).TrimOf (.object id xs))
    (h : u.issues limits c (undeclared declared xs) = []) :
    u.issues limits c (undeclared declared ys) = [] := by
  -- a field that is left over is a trim of one that was there
  have hfound : ∀ f ∈ undeclared declared ys, ∃ x, (f.1, x) ∈ undeclared declared xs
      ∧ f.2.WellKeyed ∧ f.2.TrimOf x := by
    intro f hf
    obtain ⟨hmem, hkey⟩ := mem_undeclared.mp hf
    have hy : Keyed.find? f.1 ys = some f.2 := Keyed.find?_of_mem hm.nodup_ownKeys hmem
    obtain ⟨x, hx, htrim⟩ := hmv.field hy
    exact ⟨x, mem_undeclared.mpr ⟨Keyed.mem_of_find? hx, hkey⟩,
      @Value.WellKeyed.part _ hm (.field f.1) f.2 hy, htrim⟩
  cases u with
  | strip => rfl
  | passthrough =>
    refine List.filterMap_eq_nil_iff.mpr fun f hf => ?_
    obtain ⟨x, hx, hkeyed, htrim⟩ := hfound f hf
    exact Guard.scan_of_trim hkeyed htrim (List.filterMap_eq_nil_iff.mp h (f.1, x) hx)
  | strict =>
    rw [UnknownKeys.issues, List.map_eq_nil_iff] at h ⊢
    refine List.eq_nil_iff_forall_not_mem.mpr fun f hf => ?_
    obtain ⟨x, hx, _⟩ := hfound f hf
    rw [h] at hx
    exact absurd hx List.not_mem_nil

/-- Whether fields that are not declared are handed on. -/
def UnknownKeys.handsOn : UnknownKeys → Bool
  | passthrough => true
  | _ => false

theorem UnknownKeys.kept_eq (u : UnknownKeys) (extra : List (String × Value)) :
    u.kept extra = if u.handsOn then extra else [] := by
  cases u <;> rfl

/-! ### Judging again -/

/-- The judges in charge of declared fields. -/
def Shape.judgeOf (fields : List (String × Judge)) (key : String) : Judge :=
  (Keyed.find? key fields).getD Evaluator.unresolved.judge

theorem Shape.fields_judged {s : Site} {c : Context} {fields : List (String × Judge)}
    {u : UnknownKeys} {xs : List (String × Value)} {l : List (String × Verdict)}
    (hnodup : (Keyed.keys fields).Nodup) (hxs : (Keyed.keys xs).Nodup)
    (hl : judgeFields s c xs 0 fields = some l) (hnone : Verdict.allIssues (l.map Prod.snd) = []) :
    FieldsJudged (judgeOf fields) c.childKey (Keyed.keys fields) u.handsOn s xs
      (fieldOutputs l ++ u.kept (undeclared (Keyed.keys fields) xs)) := by
  obtain ⟨hsub, hfields⟩ := judgeFields_ok hl hnone hnodup
  rw [UnknownKeys.kept_eq]
  refine ⟨?_, fun key hkey => ?_, fun key hkey => ?_⟩
  · cases u.handsOn with
    | false =>
      rw [if_neg Bool.false_ne_true, List.append_nil]
      exact hsub.nodup hnodup
    | true =>
      rw [if_pos rfl]
      simp only [Keyed.keys, List.map_append]
      refine List.nodup_append.mpr ⟨hsub.nodup hnodup,
        (keys_undeclared_sublist _ _).nodup hxs, fun a ha b hb hab => ?_⟩
      -- the first keys are declared, the others are not
      obtain ⟨f, hf, rfl⟩ := List.mem_map.mp hb
      exact (mem_undeclared.mp hf).2 (hab ▸ hsub.subset ha)
  · obtain ⟨j, hj⟩ := Keyed.mem_keys_iff.mp hkey
    obtain ⟨i, z, hjudge, hz⟩ := hfields key j hj
    refine ⟨_, z, .child s i, ?_, ?_⟩
    · rw [judgeOf, hj]
      exact hjudge
    · rw [Keyed.find?_append, hz]
      cases u.handsOn with
      | false => rw [if_neg Bool.false_ne_true, Keyed.find?_nil, Option.or_none]
      | true => rw [if_pos rfl, find?_undeclared, if_pos hkey, Option.or_none]
  · have hout : Keyed.find? key (fieldOutputs l) = none :=
      Keyed.find?_eq_none_iff.mpr fun h => hkey (hsub.subset h)
    rw [Keyed.find?_append, hout, Option.none_or]
    cases u.handsOn with
    | false => rfl
    | true => rw [if_pos rfl, if_pos rfl, find?_undeclared, if_neg hkey]

theorem guardedFields_of_ok {limits : Limits} {c : Context} {fields : List (String × Value)}
    (h : Guard.checkObject (Keyed.keys fields) c.depth limits = .ok ()) (id : Ident) :
    guardedFields limits c (.object id fields) = .ok fields := by
  simp only [guardedFields, h]

theorem Shape.judge_of_guarded {shape : Shape Judge} {s : Site} {c : Context} {id : Ident}
    {input : List (String × Value)}
    (h : Guard.checkObject (Keyed.keys input) c.depth shape.limits = .ok ()) :
    shape.judge s (.object id input) c = (judgeFields s c input 0 shape.fields).bind fun l =>
      some (Verdict.finish
        (Verdict.allIssues (l.map Prod.snd)
          ++ shape.unknown.issues shape.limits c (undeclared shape.keys input))
        (.object s.ident
          (fieldOutputs l ++ shape.unknown.kept (undeclared shape.keys input)))) := by
  simp only [judge, guardedFields_of_ok h]
  rfl

namespace Judge.Stable

theorem judgeOf {fields : List (String × Judge)} (h : ∀ f ∈ fields, f.2.Stable) (key : String) :
    (Shape.judgeOf fields key).Stable := by
  unfold Shape.judgeOf
  cases hj : Keyed.find? key fields with
  | none => exact unresolved
  | some j => exact h _ (Keyed.mem_of_find? hj)

theorem object {shape : Shape Judge} (hnodup : shape.keys.Nodup)
    (h : ∀ f ∈ shape.fields, f.2.Stable) : shape.judge.Stable := by
  intro s v c o ho hv hrun
  obtain ⟨id, xs, l, rfl, hguard, hl, hnone, hextra, rfl⟩ := Shape.judge_eq_ok ho
  have hj := judgeOf h
  have hfirst : FieldsJudged _ _ shape.keys _ s xs _ :=
    @Shape.fields_judged s c shape.fields shape.unknown xs l hnodup hv.nodup_ownKeys hl hnone
  refine ⟨hfirst.trim hj hv hrun, fun s' m hm hrun' hom hmv => ?_⟩
  obtain ⟨id₂, ys, rfl⟩ := Value.frame_object hmv.frame_eq
  obtain ⟨l', hl', hnone'⟩ := @Shape.judgeFields_of_ok s' c ys shape.fields (fun f hf i => by
    have hkey : f.1 ∈ shape.keys := List.mem_map_of_mem hf
    obtain ⟨w, hw⟩ := hfirst.again hj hv hrun hm hrun' hom hmv hkey (.child s' i)
    rw [Shape.judgeOf, Keyed.find?_of_mem hnodup hf] at hw
    exact ⟨w, hw⟩) 0
  have hsecond : FieldsJudged _ _ shape.keys _ s' ys _ :=
    @Shape.fields_judged s' c shape.fields shape.unknown ys l' hnodup hm.nodup_ownKeys hl' hnone'
  refine ⟨_, ?_, hfirst.parallel hsecond hj (List.Subset.refl _)
    (fun key hkey hkey' => absurd hkey hkey') hv hrun hm hrun' hom hmv⟩
  rw [Shape.judge_of_guarded (Guard.checkObject_of_subset hguard hmv.ownKeys_subset), hl',
    Option.bind_some, hnone', UnknownKeys.issues_of_trim hm hmv hextra]
  rfl

end Judge.Stable

/-! ## Records -/

/-- The key of an entry is judged as a text, which is put out as it is. -/
theorem Record.judgeKey_ok {key : Option Judge} (h : ∀ j ∈ key, j.Stable) {s : Site} {name : String}
    {c : Context} {k : Value} (hk : judgeKey key s name c = some (.ok k)) :
    k = .string name ∧ ∀ s', judgeKey key s' name c = some (.ok (.string name)) := by
  cases key with
  | none =>
    cases hk
    exact ⟨rfl, fun _ => rfl⟩
  | some j =>
    obtain ⟨htrim, hagain⟩ := h j rfl hk (.of_plain rfl) (Nat.zero_le _)
    obtain rfl := htrim.eq_of_plain rfl
    refine ⟨rfl, fun s' => ?_⟩
    obtain ⟨o, ho, hpar⟩ := hagain s' (.of_plain rfl) (Nat.zero_le _) (.refl _) (.refl _)
    obtain rfl := Value.eq_of_frame_eq hpar.symm.frame_eq rfl
    exact ho

namespace Record

variable {s : Site} {c : Context} {key : Option Judge} {value : Judge}

/-- The outputs of entries, found under their keys. -/
theorem judgeEntries_ok (hstable : ∀ j ∈ key, j.Stable) {input : List (String × Value)} :
    ∀ {n : Nat} {l : List Entry}, judgeEntries key value s c n input = some l →
    l.flatMap Entry.issues = [] → (Keyed.keys input).Nodup →
    (Keyed.keys (l.filterMap Entry.output?)).Sublist (Keyed.keys input)
      ∧ ∀ (name : String) (x : Value), Keyed.find? name input = some x →
        (∀ s', judgeKey key s' name (c.childKey name) = some (.ok (.string name))) ∧ ∃ i z,
          value ((s.child i).child 1) x (c.childKey name) = some (.ok z)
            ∧ Keyed.find? name (l.filterMap Entry.output?) = z.defined? := by
  induction input with
  | nil =>
    intro n l hl _ _
    cases hl
    exact ⟨.slnil, nofun⟩
  | cons f rest ih =>
    obtain ⟨k, x⟩ := f
    intro n l hl hnone hnodup
    obtain ⟨verdict, hk, hl⟩ := Option.bind_eq_some_iff.mp hl
    obtain ⟨verdict', hx, hl⟩ := Option.bind_eq_some_iff.mp hl
    obtain ⟨others, ho, hl⟩ := Option.bind_eq_some_iff.mp hl
    cases hl
    simp only [List.flatMap_cons, Entry.issues, List.append_eq_nil_iff] at hnone
    obtain ⟨⟨hkey, hvalue⟩, hothers⟩ := hnone
    obtain ⟨name, rfl⟩ := Verdict.eq_ok_of_issues hkey
    obtain ⟨z, rfl⟩ := Verdict.eq_ok_of_issues hvalue
    obtain ⟨rfl, hagain⟩ := judgeKey_ok hstable hk
    simp only [Keyed.keys, List.map_cons, List.nodup_cons] at hnodup
    obtain ⟨hsub, hentries⟩ := ih ho hothers hnodup.2
    have hout : (Entry.mk k (.ok (.string k)) (.ok z) :: others).filterMap Entry.output?
        = z.entry k ++ others.filterMap Entry.output? := by
      cases z <;> rfl
    rw [hout]
    refine ⟨Value.keys_entry_append k z hsub x, fun name y hy => ?_⟩
    by_cases hname : name = k
    · subst hname
      rw [Keyed.find?_cons_self] at hy
      cases hy
      exact ⟨hagain, n, z, hx, Value.find?_entry_append_self z
        (Keyed.find?_eq_none_iff.mpr fun hk => hnodup.1 (hsub.subset hk))⟩
    · rw [Keyed.find?_cons_of_ne hname] at hy
      rw [Value.find?_entry_append_of_ne hname]
      exact hentries name y hy

theorem judgeEntries_of_ok {input : List (String × Value)}
    (h : ∀ f ∈ input, (∀ s', ∃ k, judgeKey key s' f.1 (c.childKey f.1) = some (.ok k))
      ∧ ∀ i, ∃ z, value ((s.child i).child 1) f.2 (c.childKey f.1) = some (.ok z)) :
    ∀ n, ∃ l, judgeEntries key value s c n input = some l ∧ l.flatMap Entry.issues = [] := by
  induction input with
  | nil => exact fun _ => ⟨[], rfl, rfl⟩
  | cons f rest ih =>
    obtain ⟨name, x⟩ := f
    intro n
    simp only [List.forall_mem_cons] at h
    obtain ⟨k, hk⟩ := h.1.1 ((s.child n).child 0)
    obtain ⟨z, hz⟩ := h.1.2 n
    obtain ⟨others, hothers, hnone⟩ := ih h.2 (n + 1)
    refine ⟨⟨name, .ok k, .ok z⟩ :: others, ?_, ?_⟩
    · simp only [judgeEntries]
      rw [hk, hz, hothers]
      rfl
    · exact hnone

end Record

theorem Keyed.insert_of_not_mem {α : Type} {key : String} {v : α} {l : List (String × α)}
    (h : key ∉ keys l) : insert key v l = l ++ [(key, v)] := by
  induction l with
  | nil => rfl
  | cons e rest ih =>
    simp only [keys, List.map_cons, List.mem_cons, not_or] at h
    rw [insert, if_neg (Ne.symm h.1), ih h.2]
    rfl

/-- Entries with a key each are written one behind the other. -/
theorem Keyed.insertAll_of_nodup {α : Type} {entries : List (String × α)} :
    ∀ {l : List (String × α)}, (keys (l ++ entries)).Nodup →
    insertAll l entries = l ++ entries := by
  induction entries with
  | nil => exact fun _ => (List.append_nil _).symm
  | cons e rest ih =>
    intro l h
    have hmem : e.1 ∉ keys l := by
      intro hkey
      simp only [keys, List.map_append, List.map_cons, List.nodup_append] at h
      exact h.2.2 e.1 hkey e.1 List.mem_cons_self rfl
    show insertAll (insert e.1 e.2 l) rest = _
    rw [insert_of_not_mem hmem, ih (by rw [List.append_assoc]; exact h), List.append_assoc]
    rfl

theorem Keyed.ofList_of_nodup {α : Type} {entries : List (String × α)}
    (h : (keys entries).Nodup) : ofList entries = entries :=
  insertAll_of_nodup h

theorem Record.entries_judged {s : Site} {c : Context} {key : Option Judge} {value : Judge}
    (hstable : ∀ j ∈ key, j.Stable) {xs : List (String × Value)} {l : List Entry}
    (hxs : (Keyed.keys xs).Nodup) (hl : judgeEntries key value s c 0 xs = some l)
    (hnone : l.flatMap Entry.issues = []) :
    FieldsJudged (fun _ => value) c.childKey (Keyed.keys xs) false s xs
      (l.filterMap Entry.output?) := by
  obtain ⟨hsub, hentries⟩ := judgeEntries_ok hstable hl hnone hxs
  refine ⟨hsub.nodup hxs, fun name hname => ?_, fun name hname => ?_⟩
  · obtain ⟨x, hx⟩ := Keyed.mem_keys_iff.mp hname
    obtain ⟨_, i, z, hjudge, hz⟩ := hentries name x hx
    refine ⟨_, z, .child_child s i 1, ?_, hz⟩
    rw [Value.fieldOr_of_find? hx]
    exact hjudge
  · exact Keyed.find?_eq_none_iff.mpr fun h => hname (hsub.subset h)

theorem Record.judge_of_guarded {key : Option Judge} {value : Judge} {limits : Limits} {s : Site}
    {c : Context} {id : Ident} {input : List (String × Value)}
    (h : Guard.checkObject (Keyed.keys input) c.depth limits = .ok ()) :
    Record.judge key value limits s (.object id input) c
      = (judgeEntries key value s c 0 input).bind fun l =>
        some (Verdict.finish (l.flatMap Entry.issues)
          (Value.ofEntries s.ident (l.filterMap Entry.output?))) := by
  simp only [judge, guardedFields_of_ok h]
  rfl

theorem Judge.Stable.record {key : Option Judge} {value : Judge} {limits : Limits}
    (hkey : ∀ j ∈ key, j.Stable) (hvalue : value.Stable) :
    Judge.Stable (Record.judge key value limits) := by
  intro s v c o ho hv hrun
  obtain ⟨id, xs, l, rfl, hguard, hl, hnone, rfl⟩ := Record.judge_eq_ok ho
  have hfirst := Record.entries_judged hkey hv.nodup_ownKeys hl hnone
  rw [Value.ofEntries, Keyed.ofList_of_nodup hfirst.nodup]
  refine ⟨hfirst.trim (fun _ => hvalue) hv hrun, fun s' m hm hrun' hom hmv => ?_⟩
  obtain ⟨id₂, ys, rfl⟩ := Value.frame_object hmv.frame_eq
  have hsub : Keyed.keys ys ⊆ Keyed.keys xs := hmv.ownKeys_subset
  obtain ⟨_, hentries⟩ := Record.judgeEntries_ok hkey hl hnone hv.nodup_ownKeys
  obtain ⟨l', hl', hnone'⟩ := @Record.judgeEntries_of_ok s' c key value ys (fun f hf => by
    have hmem : f.1 ∈ Keyed.keys xs := hsub (List.mem_map_of_mem hf)
    obtain ⟨x, hx⟩ := Keyed.mem_keys_iff.mp hmem
    refine ⟨fun s' => ⟨_, (hentries f.1 x hx).1 s'⟩, fun i => ?_⟩
    have hy : Keyed.find? f.1 ys = some f.2 := Keyed.find?_of_mem hm.nodup_ownKeys hf
    have hagain := hfirst.again (fun _ => hvalue) hv hrun hm hrun' hom hmv hmem
      (.child_child s' i 1)
    rw [Value.fieldOr_of_find? hy] at hagain
    exact hagain) 0
  have hsecond := Record.entries_judged hkey hm.nodup_ownKeys hl' hnone'
  refine ⟨_, ?_, hfirst.parallel hsecond (fun _ => hvalue) hsub
    (fun name _ hname => Keyed.find?_eq_none_iff.mpr hname) hv hrun hm hrun' hom hmv⟩
  rw [Record.judge_of_guarded (Guard.checkObject_of_subset hguard hsub), hl', Option.bind_some,
    hnone', Value.ofEntries, Keyed.ofList_of_nodup hsecond.nodup]
  rfl

end ValueSchema
