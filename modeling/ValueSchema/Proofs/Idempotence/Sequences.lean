/-
Judges that accept again what they have put out.

A judge is stable if an output of its is a trim of the value, and if every value in between, as far
as it may be trimmed without losing anything of that output, is accepted with a parallel output. The
second half says more than that outputs are accepted again, which is the case of the output itself.
An intersection needs it, as each branch is given the merge of all outputs on the second run, and
containers hand it on to their parts.

Arrays, tuples and maps rebuild their input step by step, so they are one argument.
-/
import ValueSchema.Proofs.Idempotence.Merging

set_option autoImplicit false

namespace ValueSchema

open Value (Parallel TrimOf)

/-- Outputs are trims, and what lies between an output and its value is accepted with a parallel
output. -/
def Judge.Stable (j : Judge) : Prop :=
  ∀ ⦃s : Site⦄ ⦃v : Value⦄ ⦃c : Context⦄ ⦃o : Value⦄, j s v c = some (.ok o) → v.WellKeyed →
    v.nextRun ≤ s.run → o.TrimOf v
      ∧ ∀ (s' : Site) ⦃m : Value⦄, m.WellKeyed → m.nextRun ≤ s'.run → o.TrimOf m → m.TrimOf v →
        ∃ o', j s' m c = some (.ok o') ∧ Parallel s.Makes s'.Makes v m o o'

/-- A site of the same run whose names are names of the other one. -/
structure Site.Inside (inner outer : Site) : Prop where
  run_eq : inner.run = outer.run
  makes : ∀ id, inner.Makes id → outer.Makes id

namespace Site.Inside

theorem child (s : Site) (n : Nat) : (s.child n).Inside s := ⟨rfl, fun _ h => h.of_child⟩

theorem child_child (s : Site) (n k : Nat) : ((s.child n).child k).Inside s :=
  ⟨rfl, fun _ h => h.of_child.of_child⟩

end Site.Inside

namespace Judge.Stable

variable {s s' : Site} {v m o o' : Value} {c : Context}

/-- The output on the value itself is parallel to itself. -/
theorem self {j : Judge} (h : j.Stable) (ho : j s v c = some (.ok o)) (hv : v.WellKeyed)
    (hrun : v.nextRun ≤ s.run) : Parallel s.Makes s.Makes v v o o := by
  obtain ⟨htrim, hagain⟩ := h ho hv hrun
  obtain ⟨o', ho', hpar⟩ := hagain s hv hrun htrim (.refl v)
  rw [ho] at ho'
  cases ho'
  exact hpar

/-- What two runs inside of two others make of a value and of a trim is parallel. -/
theorem parallel {j : Judge} (h : j.Stable) {outer outer' : Site} (hs : s.Inside outer)
    (hs' : s'.Inside outer') (ho : j s v c = some (.ok o)) (ho' : j s' m c = some (.ok o'))
    (hv : v.WellKeyed) (hrun : v.nextRun ≤ outer.run) (hm : m.WellKeyed)
    (hrun' : m.nextRun ≤ outer'.run) (hom : o.TrimOf m) (hmv : m.TrimOf v) :
    Parallel outer.Makes outer'.Makes v m o o' := by
  obtain ⟨w, hw, hpar⟩ := (h ho hv (hs.run_eq ▸ hrun)).2 s' hm (hs'.run_eq ▸ hrun') hom hmv
  rw [ho'] at hw
  cases hw
  exact hpar.mono hs.makes hs'.makes

theorem handed_on : Judge.Stable fun _ v _ => some (.ok v) := by
  intro s v c o ho hv _
  cases ho
  exact ⟨.refl v, fun s' m hm _ hom hmv => ⟨m, rfl, Parallel.handed_on v m hv hm hom hmv⟩⟩

end Judge.Stable

/-! ## Rebuilding part by part -/

/-- An output has exactly the parts that the judges in charge made of the parts of the value. -/
structure PartsJudged (judges : Step → Judge) (contexts : Step → Context) (s : Site)
    (v o : Value) : Prop where
  judged : ∀ ⦃step : Step⦄ ⦃x : Value⦄, v.part? step = some x → ∃ s₁ z, s₁.Inside s
    ∧ judges step s₁ x (contexts step) = some (.ok z) ∧ o.part? step = some z
  only : ∀ ⦃step : Step⦄ ⦃z : Value⦄, o.part? step = some z → ∃ x, v.part? step = some x

namespace PartsJudged

variable {judges : Step → Judge} {contexts : Step → Context} {s s' : Site} {v m o o' : Value}

theorem trim (h : PartsJudged judges contexts s v o) (hj : ∀ step, (judges step).Stable)
    (hframe : o.frame = v.frame) (hv : v.WellKeyed) (hrun : v.nextRun ≤ s.run) : o.TrimOf v := by
  refine .of_parts hframe fun step z hz => ?_
  obtain ⟨x, hx⟩ := h.only hz
  obtain ⟨s₁, z', hs, hjudge, hz'⟩ := h.judged hx
  rw [hz] at hz'
  cases hz'
  refine ⟨x, hx, (hj step hjudge (hv.part hx) ?_).1⟩
  rw [hs.run_eq]
  exact (Value.nextRun_le_of_part? hx).trans hrun

/-- The judges in charge accept the parts of a value in between. -/
theorem again (h : PartsJudged judges contexts s v o) (hj : ∀ step, (judges step).Stable)
    (hv : v.WellKeyed) (hrun : v.nextRun ≤ s.run) (hm : m.WellKeyed) (hrun' : m.nextRun ≤ s'.run)
    (hom : o.TrimOf m) (hmv : m.TrimOf v) {step : Step} {y : Value} (hy : m.part? step = some y)
    {s₁ : Site} (hs₁ : s₁.Inside s') : ∃ z, judges step s₁ y (contexts step) = some (.ok z) := by
  obtain ⟨x, hx, hyx⟩ := hmv.part hy
  obtain ⟨s₂, z, hs, hjudge, hz⟩ := h.judged hx
  have hxrun : x.nextRun ≤ s₂.run := hs.run_eq ▸ (Value.nextRun_le_of_part? hx).trans hrun
  have hyrun : y.nextRun ≤ s₁.run := hs₁.run_eq ▸ (Value.nextRun_le_of_part? hy).trans hrun'
  obtain ⟨z', hz', _⟩ := (hj step hjudge (hv.part hx) hxrun).2 s₁ (hm.part hy) hyrun
    (hom.parts_trim hz hy) hyx
  exact ⟨z', hz'⟩

/-- Rebuilding a value and rebuilding one in between is parallel. -/
theorem parallel (h : PartsJudged judges contexts s v o) (h' : PartsJudged judges contexts s' m o')
    (hj : ∀ step, (judges step).Stable) (hframe : o.frame = v.frame) (hframe' : o'.frame = m.frame)
    (hid : o.ident? = some s.ident) (hid' : o'.ident? = some s'.ident) (hkeys : o.ownKeys = [])
    (hkeys' : o'.ownKeys = []) (hv : v.WellKeyed) (hrun : v.nextRun ≤ s.run) (hm : m.WellKeyed)
    (hrun' : m.nextRun ≤ s'.run) (hom : o.TrimOf m) (hmv : m.TrimOf v) :
    Parallel s.Makes s'.Makes v m o o' := by
  refine .of_built hmv.frame_eq hframe (hframe'.trans hmv.frame_eq) ⟨_, hid, s.makes_ident⟩
    ⟨_, hid', s'.makes_ident⟩ (hkeys ▸ List.nodup_nil) (hkeys' ▸ List.nodup_nil) fun step => ?_
  cases hz : o.part? step with
  | none =>
    -- a part that is judged is kept, so none was there
    refine .inl ⟨rfl, Option.eq_none_iff_forall_ne_some.mpr fun z' hz' => ?_⟩
    obtain ⟨y, hy⟩ := h'.only hz'
    obtain ⟨x, hx, _⟩ := hmv.part hy
    obtain ⟨_, _, _, _, hz''⟩ := h.judged hx
    rw [hz] at hz''
    cases hz''
  | some z =>
    obtain ⟨x, hx⟩ := h.only hz
    obtain ⟨y, hy, hzy⟩ := hom.part hz
    obtain ⟨s₁, z', hs, hjudge, hz'⟩ := h.judged hx
    obtain ⟨s₂, w, hs', hjudge', hw⟩ := h'.judged hy
    rw [hz] at hz'
    cases hz'
    refine .inr ⟨x, y, z, w, hx, hy, rfl, hw, ?_⟩
    exact (hj step).parallel hs hs' hjudge hjudge' (hv.part hx)
      ((Value.nextRun_le_of_part? hx).trans hrun) (hm.part hy)
      ((Value.nextRun_le_of_part? hy).trans hrun') hzy (hmv.parts_trim hy hx)

end PartsJudged

/-! ## Sequences -/

section

variable {s : Site} {c : Context}

theorem judgeFrom_ok {judgeAt : Nat → Judge} {items : List Value} : ∀ {n : Nat} {l : List Verdict},
    judgeFrom judgeAt s c n items = some l → Verdict.allIssues l = [] →
    (Verdict.outputs l).length = items.length ∧ ∀ (i : Nat) (x : Value), items[i]? = some x →
      ∃ o, judgeAt (n + i) (s.child (n + i)) x (c.childIndex (n + i)) = some (.ok o)
        ∧ (Verdict.outputs l)[i]? = some o := by
  induction items with
  | nil =>
    intro n l hl _
    cases hl
    exact ⟨rfl, fun i x hx => by cases hx⟩
  | cons x rest ih =>
    intro n l hl hnone
    obtain ⟨verdict, hv, hl⟩ := Option.bind_eq_some_iff.mp hl
    obtain ⟨others, ho, hl⟩ := Option.bind_eq_some_iff.mp hl
    cases hl
    obtain ⟨⟨o, rfl⟩, hothers⟩ := Verdict.allIssues_cons_eq_nil hnone
    obtain ⟨hlen, hitems⟩ := ih ho hothers
    refine ⟨congrArg Nat.succ hlen, fun i y hy => ?_⟩
    cases i with
    | zero =>
      cases hy
      exact ⟨o, hv, rfl⟩
    | succ i =>
      obtain ⟨o', ho', hat⟩ := hitems i y hy
      rw [show n + (i + 1) = n + 1 + i by omega]
      exact ⟨o', ho', hat⟩

theorem judgeFrom_of_ok {judgeAt : Nat → Judge} {items : List Value} : ∀ {n : Nat},
    (∀ (i : Nat) (x : Value), items[i]? = some x →
      ∃ o, judgeAt (n + i) (s.child (n + i)) x (c.childIndex (n + i)) = some (.ok o)) →
    ∃ l, judgeFrom judgeAt s c n items = some l ∧ Verdict.allIssues l = [] := by
  induction items with
  | nil => exact fun _ => ⟨[], rfl, rfl⟩
  | cons x rest ih =>
    intro n h
    obtain ⟨o, ho⟩ := h 0 x rfl
    obtain ⟨others, hothers, hnone⟩ := @ih (n + 1) fun i y hy => by
      obtain ⟨o', ho'⟩ := h (i + 1) y hy
      rw [show n + (i + 1) = n + 1 + i by omega] at ho'
      exact ⟨o', ho'⟩
    rw [Nat.add_zero] at ho
    refine ⟨.ok o :: others, ?_, ?_⟩
    · simp only [judgeFrom]
      rw [ho, hothers]
      rfl
    · rw [Verdict.allIssues, List.flatMap_cons]
      exact hnone

/-- Elements that are all accepted make an output. -/
theorem elements_of_ok {judgeAt : Nat → Judge} {items : List Value} {l : List Verdict}
    (build : List Value → Value) (hl : judgeAll judgeAt s c items = some l)
    (hnone : Verdict.allIssues l = []) :
    (do
      let verdicts ← judgeAll judgeAt s c items
      some (Verdict.finish (Verdict.allIssues verdicts) (build (Verdict.outputs verdicts))))
        = some (.ok (build (Verdict.outputs l))) := by
  rw [hl]
  simp only [Option.bind_eq_bind, Option.bind_some, hnone]
  rfl

/-- The judges in charge of the parts of a sequence. -/
def elementJudges (judgeAt : Nat → Judge) : Step → Judge
  | .element n => judgeAt n
  | _ => Evaluator.unresolved.judge

def elementContexts (c : Context) : Step → Context
  | .element n => c.childIndex n
  | _ => c

theorem elements_judged {judgeAt : Nat → Judge} {id : Ident} {xs : List Value} {l : List Verdict}
    (hl : judgeAll judgeAt s c xs = some l) (hnone : Verdict.allIssues l = []) :
    (Verdict.outputs l).length = xs.length
      ∧ PartsJudged (elementJudges judgeAt) (elementContexts c) s (.array id xs)
        (.array s.ident (Verdict.outputs l)) := by
  obtain ⟨hlen, hitems⟩ := judgeFrom_ok hl hnone
  simp only [Nat.zero_add] at hitems
  refine ⟨hlen, fun step x hx => ?_, fun step z hz => ?_⟩
  · cases step with
    | element n =>
      obtain ⟨o, ho, hat⟩ := hitems n x hx
      exact ⟨_, o, .child s n, ho, hat⟩
    | _ => cases hx
  · cases step with
    | element n =>
      have hn : n < xs.length := hlen ▸ (List.getElem?_eq_some_iff.mp hz).1
      exact ⟨_, List.getElem?_eq_getElem hn⟩
    | _ => cases hz

end

namespace Judge.Stable

variable {s : Site} {c : Context}

theorem unresolved : Judge.Stable Evaluator.unresolved.judge := by
  intro s v c o ho
  cases ho

/-- The elements of a sequence are stable together. -/
theorem elements {judgeAt : Nat → Judge} (hj : ∀ n, (judgeAt n).Stable) {id : Ident}
    {xs : List Value} {l : List Verdict} (hv : (Value.array id xs).WellKeyed)
    (hrun : (Value.array id xs).nextRun ≤ s.run) (hl : judgeAll judgeAt s c xs = some l)
    (hnone : Verdict.allIssues l = []) :
    (Value.array s.ident (Verdict.outputs l)).TrimOf (.array id xs)
      ∧ ∀ (s' : Site) ⦃m : Value⦄, m.WellKeyed → m.nextRun ≤ s'.run →
        (Value.array s.ident (Verdict.outputs l)).TrimOf m → m.TrimOf (.array id xs) →
        ∃ id' ys l', m = .array id' ys ∧ ys.length = xs.length
          ∧ judgeAll judgeAt s' c ys = some l' ∧ Verdict.allIssues l' = []
          ∧ Parallel s.Makes s'.Makes (.array id xs) m (.array s.ident (Verdict.outputs l))
            (.array s'.ident (Verdict.outputs l')) := by
  have hj' : ∀ step, (elementJudges judgeAt step).Stable := fun step => by
    cases step with
    | element n => exact hj n
    | _ => exact unresolved
  obtain ⟨hlen, hfirst⟩ := @elements_judged s c judgeAt id xs l hl hnone
  refine ⟨hfirst.trim hj' (congrArg Frame.array hlen) hv hrun, fun s' m hm hrun' hom hmv => ?_⟩
  obtain ⟨id', ys, rfl, hlength⟩ := Value.frame_array hmv.frame_eq
  obtain ⟨l', hl', hnone'⟩ := @judgeFrom_of_ok s' c judgeAt ys 0 fun i y hy => by
    rw [Nat.zero_add]
    exact @PartsJudged.again _ _ _ s' _ _ _ hfirst hj' hv hrun hm hrun' hom hmv (.element i) y hy
      _ (.child s' i)
  obtain ⟨hlen', hsecond⟩ := @elements_judged s' c judgeAt id' ys l' hl' hnone'
  exact ⟨id', ys, l', rfl, hlength, hl', hnone', hfirst.parallel hsecond hj'
    (congrArg Frame.array hlen) (congrArg Frame.array hlen') rfl rfl rfl rfl hv hrun hm hrun' hom
    hmv⟩

end Judge.Stable

/-! ## Arrays and tuples -/

theorem Guard.checkDepth_of_le {depth : Nat} {limits : Limits} (h : depth ≤ limits.maxDepth) :
    checkDepth depth limits = .ok () :=
  if_neg (Nat.not_lt.mpr h)

theorem guardedItems_of_le {limits : Limits} {c : Context} (h : c.depth ≤ limits.maxDepth)
    (id : Ident) (items : List Value) : guardedItems limits c (.array id items) = .ok items := by
  simp only [guardedItems, Guard.checkDepth_of_le h]

theorem ArrayBounds.judge_of_le {b : ArrayBounds} {element : Judge} {s : Site} {c : Context}
    {id : Ident} {items : List Value} (hdepth : c.depth ≤ b.limits.maxDepth)
    (hfault : b.fault? items = none) :
    b.judge element s (.array id items) c = (judgeAll (fun _ => element) s c items).bind fun l =>
      some (Verdict.finish (Verdict.allIssues l) (.array s.ident (Verdict.outputs l))) := by
  simp only [judge, guardedItems_of_le hdepth, hfault]
  rfl

theorem Tuple.judge_of_le {items : List Judge} {rest : Option Judge} {limits : Limits} {s : Site}
    {c : Context} {id : Ident} {elements : List Value} (hdepth : c.depth ≤ limits.maxDepth)
    (hfault : fault? items.length rest.isSome elements.length = none) :
    Tuple.judge items rest limits s (.array id elements) c
      = (judgeAll (judgeAt items rest) s c elements).bind fun l =>
        some (Verdict.finish (Verdict.allIssues l) (.array s.ident (Verdict.outputs l))) := by
  simp only [judge, guardedItems_of_le hdepth, hfault]
  rfl

/-- Apart from repeats, what is wrong with an array as a whole is wrong with its size. -/
theorem ArrayBounds.fault?_eq_of_length {b : ArrayBounds} (hb : b.unique = false)
    {xs ys : List Value} (hlen : ys.length = xs.length) : b.fault? ys = b.fault? xs := by
  have hempty : ys.isEmpty = xs.isEmpty := by
    rw [Bool.eq_iff_iff, List.isEmpty_iff_length_eq_zero, List.isEmpty_iff_length_eq_zero, hlen]
  simp only [fault?, hlen, hempty, hb, Bool.false_eq_true, if_false]

namespace Judge.Stable

theorem array {b : ArrayBounds} (hb : b.unique = false) {element : Judge} (h : element.Stable) :
    (b.judge element).Stable := by
  intro s v c o ho hv hrun
  obtain ⟨id, xs, l, rfl, hdepth, hl, hnone, rfl⟩ := ArrayBounds.judge_eq_ok ho
  have hfault : b.fault? xs = none := by
    cases hf : b.fault? xs with
    | none => rfl
    | some fault =>
      simp only [ArrayBounds.judge, guardedItems_of_le hdepth, hf] at ho
      cases ho
  obtain ⟨htrim, hagain⟩ := elements (fun _ => h) hv hrun hl hnone
  refine ⟨htrim, fun s' m hm hrun' hom hmv => ?_⟩
  obtain ⟨id', ys, l', rfl, hlen, hl', hnone', hpar⟩ := hagain s' hm hrun' hom hmv
  refine ⟨_, ?_, hpar⟩
  rw [ArrayBounds.judge_of_le hdepth ((ArrayBounds.fault?_eq_of_length hb hlen).trans hfault)]
  exact elements_of_ok _ hl' hnone'

theorem judgeAt {items : List Judge} {rest : Option Judge}
    (h : ∀ j ∈ items ++ rest.toList, j.Stable) (n : Nat) : (Tuple.judgeAt items rest n).Stable := by
  unfold Tuple.judgeAt
  cases hn : Tuple.childAt items rest n with
  | none => exact handed_on
  | some j => exact h j (Tuple.mem_of_childAt hn)

theorem tuple {items : List Judge} {rest : Option Judge} {limits : Limits}
    (h : ∀ j ∈ items ++ rest.toList, j.Stable) : Judge.Stable (Tuple.judge items rest limits) := by
  intro s v c o ho hv hrun
  obtain ⟨id, xs, l, rfl, hdepth, hfault, hl, hnone, rfl⟩ := Tuple.judge_eq_ok ho
  obtain ⟨htrim, hagain⟩ := elements (judgeAt h) hv hrun hl hnone
  refine ⟨htrim, fun s' m hm hrun' hom hmv => ?_⟩
  obtain ⟨id', ys, l', rfl, hlen, hl', hnone', hpar⟩ := hagain s' hm hrun' hom hmv
  refine ⟨_, ?_, hpar⟩
  rw [Tuple.judge_of_le hdepth (hlen ▸ hfault)]
  exact elements_of_ok _ hl' hnone'

end Judge.Stable

/-! ## Maps -/

namespace Dictionary

variable {s : Site} {c : Context} {key value : Judge}

theorem judgeEntries_ok {entries : List (Value × Value)} :
    ∀ {n : Nat} {l : List (Verdict × Verdict)}, judgeEntries key value s c n entries = some l →
    (l.flatMap fun e => e.1.issues ++ e.2.issues) = [] →
    (l.filterMap output?).length = entries.length
      ∧ ∀ (i : Nat) (e : Value × Value), entries[i]? = some e → ∃ o : Value × Value,
        key ((s.child (n + i)).child 0) e.1 ((c.childIndex (n + i)).atKey "key") = some (.ok o.1)
          ∧ value ((s.child (n + i)).child 1) e.2 ((c.childIndex (n + i)).atKey "value")
            = some (.ok o.2)
          ∧ (l.filterMap output?)[i]? = some o := by
  induction entries with
  | nil =>
    intro n l hl _
    cases hl
    exact ⟨rfl, nofun⟩
  | cons e rest ih =>
    intro n l hl hnone
    obtain ⟨verdict, hk, hl⟩ := Option.bind_eq_some_iff.mp hl
    obtain ⟨verdict', hx, hl⟩ := Option.bind_eq_some_iff.mp hl
    obtain ⟨others, ho, hl⟩ := Option.bind_eq_some_iff.mp hl
    cases hl
    rw [List.flatMap_cons, List.append_eq_nil_iff, List.append_eq_nil_iff] at hnone
    obtain ⟨⟨hkey, hvalue⟩, hothers⟩ := hnone
    obtain ⟨k, rfl⟩ := Verdict.eq_ok_of_issues hkey
    obtain ⟨x, rfl⟩ := Verdict.eq_ok_of_issues hvalue
    obtain ⟨hlen, hentries⟩ := ih ho hothers
    refine ⟨congrArg Nat.succ hlen, fun i f hf => ?_⟩
    cases i with
    | zero =>
      cases hf
      exact ⟨(k, x), hk, hx, rfl⟩
    | succ i =>
      rw [show n + (i + 1) = n + 1 + i by omega]
      exact hentries i f hf

theorem judgeEntries_of_ok {entries : List (Value × Value)} : ∀ {n : Nat},
    (∀ (i : Nat) (e : Value × Value), entries[i]? = some e →
      (∃ k, key ((s.child (n + i)).child 0) e.1 ((c.childIndex (n + i)).atKey "key")
        = some (.ok k))
      ∧ ∃ x, value ((s.child (n + i)).child 1) e.2 ((c.childIndex (n + i)).atKey "value")
        = some (.ok x)) →
    ∃ l, judgeEntries key value s c n entries = some l
      ∧ (l.flatMap fun e => e.1.issues ++ e.2.issues) = [] := by
  induction entries with
  | nil => exact fun _ => ⟨[], rfl, rfl⟩
  | cons e rest ih =>
    intro n h
    obtain ⟨⟨k, hk⟩, x, hx⟩ := h 0 e rfl
    obtain ⟨others, hothers, hnone⟩ := @ih (n + 1) fun i f hf => by
      rw [show n + 1 + i = n + (i + 1) by omega]
      exact h (i + 1) f hf
    rw [Nat.add_zero] at hk hx
    refine ⟨(.ok k, .ok x) :: others, ?_, ?_⟩
    · simp only [judgeEntries]
      rw [hk, hx, hothers]
      rfl
    · rw [List.flatMap_cons]
      exact hnone

/-- The judges in charge of the parts of a map. -/
def partJudges (key value : Judge) : Step → Judge
  | .entryKey _ => key
  | _ => value

def partContexts (c : Context) : Step → Context
  | .entryKey n => (c.childIndex n).atKey "key"
  | .entryValue n => (c.childIndex n).atKey "value"
  | _ => c

theorem entries_judged {id : Ident} {xs : List (Value × Value)} {l : List (Verdict × Verdict)}
    (hl : judgeEntries key value s c 0 xs = some l)
    (hnone : (l.flatMap fun e => e.1.issues ++ e.2.issues) = []) :
    (l.filterMap output?).length = xs.length
      ∧ PartsJudged (partJudges key value) (partContexts c) s (.map id xs)
        (.map s.ident (l.filterMap output?)) := by
  obtain ⟨hlen, hentries⟩ := judgeEntries_ok hl hnone
  simp only [Nat.zero_add] at hentries
  have hfound : ∀ {n : Nat} {o : Value × Value}, (l.filterMap output?)[n]? = some o →
      ∃ e, xs[n]? = some e := fun ho =>
    ⟨_, List.getElem?_eq_getElem (hlen ▸ (List.getElem?_eq_some_iff.mp ho).1)⟩
  refine ⟨hlen, fun step x hx => ?_, fun step z hz => ?_⟩
  · cases step with
    | entryKey n =>
      obtain ⟨e, he, rfl⟩ := Option.map_eq_some_iff.mp hx
      obtain ⟨o, hk, _, hat⟩ := hentries n e he
      exact ⟨_, o.1, .child_child s n 0, hk, Option.map_eq_some_iff.mpr ⟨o, hat, rfl⟩⟩
    | entryValue n =>
      obtain ⟨e, he, rfl⟩ := Option.map_eq_some_iff.mp hx
      obtain ⟨o, _, hv, hat⟩ := hentries n e he
      exact ⟨_, o.2, .child_child s n 1, hv, Option.map_eq_some_iff.mpr ⟨o, hat, rfl⟩⟩
    | _ => cases hx
  · cases step with
    | entryKey n | entryValue n =>
      obtain ⟨o, ho, rfl⟩ := Option.map_eq_some_iff.mp hz
      obtain ⟨e, he⟩ := hfound ho
      exact ⟨_, Option.map_eq_some_iff.mpr ⟨e, he, rfl⟩⟩
    | _ => cases hz

end Dictionary

theorem Dictionary.judge_of_le {key value : Judge} {limits : Limits} {s : Site} {c : Context}
    {id : Ident} {entries : List (Value × Value)} (hdepth : c.depth ≤ limits.maxDepth) :
    Dictionary.judge key value limits s (.map id entries) c
      = (judgeEntries key value s c 0 entries).bind fun l =>
        some (Verdict.finish (l.flatMap fun e => e.1.issues ++ e.2.issues)
          (.map s.ident (l.filterMap output?))) := by
  simp only [judge, Guard.checkDepth_of_le hdepth]
  rfl

theorem Judge.Stable.map {key value : Judge} {limits : Limits} (hkey : key.Stable)
    (hvalue : value.Stable) : Judge.Stable (Dictionary.judge key value limits) := by
  intro s v c o ho hv hrun
  obtain ⟨id, xs, l, rfl, hdepth, hl, hnone, rfl⟩ := Dictionary.judge_eq_ok ho
  have hj : ∀ step, (Dictionary.partJudges key value step).Stable := fun step => by
    cases step <;> first | exact hkey | exact hvalue
  obtain ⟨hlen, hfirst⟩ := @Dictionary.entries_judged s c key value id xs l hl hnone
  refine ⟨hfirst.trim hj (congrArg Frame.map hlen) hv hrun, fun s' m hm hrun' hom hmv => ?_⟩
  obtain ⟨id', ys, rfl, _⟩ := Value.frame_map hmv.frame_eq
  have hagain := @PartsJudged.again _ _ _ s' _ _ _ hfirst hj hv hrun hm hrun' hom hmv
  obtain ⟨l', hl', hnone'⟩ := @Dictionary.judgeEntries_of_ok s' c key value ys 0 fun i f hf => by
    rw [Nat.zero_add]
    exact ⟨@hagain (.entryKey i) _ (Option.map_eq_some_iff.mpr ⟨f, hf, rfl⟩) _
        (.child_child s' i 0),
      @hagain (.entryValue i) _ (Option.map_eq_some_iff.mpr ⟨f, hf, rfl⟩) _
        (.child_child s' i 1)⟩
  obtain ⟨hlen', hsecond⟩ := @Dictionary.entries_judged s' c key value id' ys l' hl' hnone'
  refine ⟨.map s'.ident (l'.filterMap Dictionary.output?), ?_, ?_⟩
  · rw [Dictionary.judge_of_le hdepth, hl', Option.bind_some, hnone']
    rfl
  · exact hfirst.parallel hsecond hj (congrArg Frame.map hlen) (congrArg Frame.map hlen') rfl rfl
      rfl rfl hv hrun hm hrun' hom hmv

end ValueSchema
