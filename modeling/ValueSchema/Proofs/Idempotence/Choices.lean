/-
Leaves, modifiers, tagged unions and intersections that are judged again.

None of these looks at the parts of its value. A leaf hands its value on, a modifier lets a value
pass or asks the schema inside, a tagged union asks the option that the tag selects, and that tag is
still there as the option puts it out. An intersection is where the room between output and value is
needed: its branches are given the merge of all outputs, which lies above each of them.
-/
import ValueSchema.Proofs.Idempotence.Fields
import ValueSchema.Proofs.Sanitised.Schemas

set_option autoImplicit false

namespace ValueSchema

open Value (Parallel TrimOf)

/-- Only what the predicate holds of passes. -/
theorem Verdict.passed_of_ofCheck {answer : Except Crash Bool} {text : String} {c : Context}
    {v o : Value} (h : ofCheck answer text c v = .ok o) : answer = .ok true := by
  cases answer with
  | error crash => cases h
  | ok passed =>
    cases passed with
    | true => rfl
    | false => cases h

namespace Judge.Stable

/-! ## Leaves -/

/-- A leaf that hands on what it accepts, and accepts what is left of it. -/
theorem leaf {run : Context → Value → Verdict} {accepts : Value → Bool}
    (h : ∀ c v o, run c v = .ok o → o = v ∧ ∀ m, m.TrimOf v → run c m = .ok m) :
    (Evaluator.leaf run accepts).judge.Stable := by
  intro s v c o ho hv _
  obtain ⟨rfl, hagain⟩ := h c v o (Option.some.inj ho)
  exact ⟨.refl o, fun s' m hm _ hom hmv =>
    ⟨m, congrArg some (hagain m hmv), Parallel.handed_on o m hv hm hom hmv⟩⟩

/-- A leaf that accepts no containers has nothing to trim. -/
theorem plain_leaf {run : Context → Value → Verdict} {accepts : Value → Bool}
    (h : ∀ c v o, run c v = .ok o → o = v ∧ v.isComposite = false) :
    (Evaluator.leaf run accepts).judge.Stable := by
  refine leaf fun c v o ho => ?_
  obtain ⟨rfl, hplain⟩ := h c v o ho
  refine ⟨rfl, fun m hm => ?_⟩
  rw [hm.eq_of_plain hplain]
  exact ho

theorem text {t : TextSchema} (ht : t.transforms = []) :
    (Evaluator.leaf t.run t.accepts).judge.Stable := by
  refine plain_leaf fun c v o ho => ?_
  obtain ⟨x, rfl, rfl⟩ := TextSchema.run_eq_ok ho
  simp only [TextSchema.output, ht]
  exact ⟨trivial, rfl⟩

theorem number (n : NumberSchema) : (Evaluator.leaf n.run n.accepts).judge.Stable := by
  refine plain_leaf fun c v o ho => ?_
  obtain ⟨⟨x, rfl⟩, rfl⟩ := NumberSchema.run_eq_ok ho
  exact ⟨rfl, rfl⟩

theorem integer (n : IntegerSchema) : (Evaluator.leaf n.run n.accepts).judge.Stable := by
  refine plain_leaf fun c v o ho => ?_
  obtain ⟨⟨x, rfl⟩, rfl⟩ := IntegerSchema.run_eq_ok ho
  exact ⟨rfl, rfl⟩

theorem date (d : DateSchema) : (Evaluator.leaf d.run d.accepts).judge.Stable := by
  refine plain_leaf fun c v o ho => ?_
  obtain ⟨⟨t, rfl⟩, rfl⟩ := DateSchema.run_eq_ok ho
  exact ⟨rfl, rfl⟩

theorem plain (p : PlainSchema) : (Evaluator.leaf p.run p.accepts).judge.Stable := by
  refine leaf fun c v o ho => ?_
  obtain ⟨hp, rfl⟩ := Verdict.checked_eq_ok ho
  refine ⟨rfl, fun m hm => if_pos ?_⟩
  by_cases hall : p = .any ∨ p = .unknown
  · rcases hall with rfl | rfl <;> rfl
  · rw [not_or] at hall
    rw [hm.eq_of_plain (PlainSchema.isComposite_of_accepts hall hp)]
    exact hp

theorem literal {l : Value} (hl : l.isComposite = false) :
    (Evaluator.leaf (Literal.run l) (Literal.accepts l)).judge.Stable := by
  refine plain_leaf fun c v o ho => ?_
  obtain ⟨hsame, rfl⟩ := Verdict.checked_eq_ok ho
  exact ⟨rfl, (Value.isComposite_eq_of_sameValueZero hsame).symm.trans hl⟩

theorem words (options : List String) :
    (Evaluator.leaf (Words.run options) (Words.accepts options)).judge.Stable := by
  refine plain_leaf fun c v o ho => ?_
  obtain ⟨haccepts, rfl⟩ := Verdict.checked_eq_ok ho
  exact ⟨rfl, Words.isComposite_of_accepts haccepts⟩

theorem enumeration {entries : List (String × Value)}
    (h : ∀ e ∈ entries, e.2.isComposite = false) :
    (Evaluator.leaf (Enumeration.run entries) (Enumeration.accepts entries)).judge.Stable := by
  refine plain_leaf fun c v o ho => ?_
  obtain ⟨haccepts, rfl⟩ := Verdict.checked_eq_ok ho
  exact ⟨rfl, Enumeration.isComposite_of_accepts h haccepts⟩

/-! ## Modifiers -/

/-- Values that are no containers pass as they are. -/
theorem passing {inner : Judge} (h : inner.Stable) {passes : Value → Bool}
    {output : Value → Value}
    (hpasses : ∀ v, passes v = true → v.isComposite = false ∧ output v = v) :
    Judge.Stable fun s v c => if passes v then some (.ok (output v)) else inner s v c := by
  intro s v c o ho hv hrun
  by_cases hp : passes v = true
  · dsimp only at ho
    obtain ⟨hplain, hout⟩ := hpasses v hp
    rw [if_pos hp, hout] at ho
    cases ho
    refine ⟨.refl v, fun s' m hm _ hom hmv => ⟨m, ?_, Parallel.handed_on v m hv hm hom hmv⟩⟩
    obtain rfl := hmv.eq_of_plain hplain
    dsimp only
    rw [if_pos hp, hout]
  · have ho : inner s v c = some (.ok o) := (if_neg hp).symm.trans ho
    obtain ⟨htrim, hagain⟩ := h ho hv hrun
    refine ⟨htrim, fun s' m hm hrun' hom hmv => ?_⟩
    have hp' : ¬ passes m = true := fun hm' => by
      rw [Value.eq_of_frame_eq hmv.frame_eq.symm (hpasses m hm').1] at hp
      exact hp hm'
    obtain ⟨o', ho', hpar⟩ := hagain s' hm hrun' hom hmv
    exact ⟨o', (if_neg hp').trans ho', hpar⟩

theorem message {inner : Judge} (h : inner.Stable) (text : String) :
    Judge.Stable fun s v c =>
      (inner s v c).map fun verdict => verdict.mapError (Issues.overrideMessage c.path text) := by
  intro s v c o ho hv hrun
  obtain ⟨verdict, hverdict, hmapped⟩ := Option.map_eq_some_iff.mp ho
  cases verdict with
  | error e => cases hmapped
  | ok w =>
    cases hmapped
    obtain ⟨htrim, hagain⟩ := h hverdict hv hrun
    refine ⟨htrim, fun s' m hm hrun' hom hmv => ?_⟩
    obtain ⟨o', ho', hpar⟩ := hagain s' hm hrun' hom hmv
    exact ⟨o', Option.map_eq_some_iff.mpr ⟨.ok o', ho', rfl⟩, hpar⟩

/-- An output that passed passes again, if the predicate does not tell alike values apart. -/
theorem refine {inner : Judge} (h : inner.Stable) {check : Predicate} (text : String)
    (hcheck : ∀ a b : Value, a.WellKeyed → b.WellKeyed → a.Alike b → check a = check b) :
    (inner.checkOutput fun c output => Verdict.ofCheck (check output) text c output).Stable := by
  intro s v c o ho hv hrun
  obtain ⟨verdict, hverdict, hnext⟩ := Option.bind_eq_some_iff.mp ho
  obtain ⟨w, rfl, hpassed⟩ := Verdict.andThen_eq_ok hnext
  have hpassed : Verdict.ofCheck (check w) text c w = .ok o := Option.some.inj hpassed
  have htrue := Verdict.passed_of_ofCheck hpassed
  obtain rfl := Verdict.ofCheck_eq_ok hpassed
  obtain ⟨htrim, hagain⟩ := h hverdict hv hrun
  refine ⟨htrim, fun s' m hm hrun' hom hmv => ?_⟩
  obtain ⟨o', ho', hpar⟩ := hagain s' hm hrun' hom hmv
  refine ⟨o', ?_, hpar⟩
  rw [hcheck o o' hpar.wellKeyed hpar.symm.wellKeyed hpar.alike] at htrue
  simp only [Judge.checkOutput, ho', Option.bind_eq_bind, Option.bind_some, Verdict.andThen, htrue]
  rfl

end Judge.Stable

/-! ## Tagged unions -/

/-- The literal at the selected place has the key of the tag. -/
theorem Tagged.literal_of_select? {discriminator : String} {literals : List (Option Value)}
    {fields : List (String × Value)} {n : Nat}
    (h : select? discriminator literals fields = some n) : ∃ l, literals[n]? = some (some l) := by
  obtain ⟨tag, _, h⟩ := Option.bind_eq_some_iff.mp h
  obtain ⟨hn, hkey, _⟩ := List.findIdx?_eq_some_iff_getElem.mp h
  cases hl : literals[n] with
  | none =>
    rw [hl] at hkey
    cases hkey
  | some l => exact ⟨l, List.getElem?_eq_some_iff.mpr ⟨hn, hl⟩⟩

/-- An object that declares a literal puts out what stands in for it. -/
theorem Shape.keeps_literal {shape : Shape Judge} {s : Site} {id : Ident}
    {xs : List (String × Value)} {c : Context} {o l : Value} {key : String}
    (hnodup : shape.keys.Nodup) (hxs : (Keyed.keys xs).Nodup)
    (hfield : Keyed.find? key shape.fields
      = some (Evaluator.leaf (Literal.run l) (Literal.accepts l)).judge)
    (hplain : l.isComposite = false) (hdefined : l ≠ .undefined)
    (ho : shape.judge s (.object id xs) c = some (.ok o)) :
    ∃ tag, tag.isComposite = false ∧ Keyed.find? key xs = some tag
      ∧ o.part? (.field key) = some tag := by
  obtain ⟨_, _, verdicts, heq, _, hl, hnone, _, rfl⟩ := Shape.judge_eq_ok ho
  cases heq
  have hjudged : FieldsJudged _ _ shape.keys _ s xs _ :=
    @Shape.fields_judged s c shape.fields shape.unknown xs verdicts hnodup hxs hl hnone
  obtain ⟨_, z, _, hjudge, hz⟩ := hjudged.judged (Keyed.mem_keys_iff.mpr ⟨_, hfield⟩)
  rw [judgeOf, hfield] at hjudge
  obtain ⟨hsame, rfl⟩ := Verdict.checked_eq_ok (Option.some.inj hjudge)
  -- undefined agrees with no other literal
  have hne : fieldOr key xs ≠ .undefined := by
    intro hundefined
    rw [hundefined] at hsame
    exact hdefined (by cases l <;> first | rfl | cases hsame)
  refine ⟨_, (Value.isComposite_eq_of_sameValueZero hsame).symm.trans hplain,
    Value.find?_of_fieldOr_ne hne, ?_⟩
  exact hz.trans ((fieldOr key xs).defined?_eq_or.resolve_left hne)

/-- The options of a tagged union keep the tag that selects them. -/
theorem Judge.Stable.tagged {discriminator : String} {literals : List (Option Value)}
    {options : List Judge} (h : ∀ j ∈ options, j.Stable)
    (hkeeps : ∀ n j, options[n]? = some j → ∀ s id xs c o, (Keyed.keys xs).Nodup →
      Tagged.select? discriminator literals xs = some n → j s (.object id xs) c = some (.ok o) →
      ∃ tag, tag.isComposite = false ∧ Keyed.find? discriminator xs = some tag
        ∧ o.part? (.field discriminator) = some tag) :
    Judge.Stable (Tagged.judge discriminator literals options) := by
  intro s v c o ho hv hrun
  obtain ⟨id, xs, n, j, rfl, hselect, hn, hjudge⟩ := Tagged.judge_eq_ok ho
  obtain ⟨tag, hplain, hx, hz⟩ := hkeeps n j hn _ id xs c o hv.nodup_ownKeys hselect hjudge
  obtain ⟨htrim, hagain⟩ := h j (List.mem_of_getElem? hn) hjudge hv hrun
  refine ⟨htrim, fun s' m hm hrun' hom hmv => ?_⟩
  obtain ⟨o', ho', hpar⟩ := hagain (s'.child n) hm hrun' hom hmv
  obtain ⟨id', ys, rfl⟩ := Value.frame_object hmv.frame_eq
  refine ⟨o', ?_, hpar.mono (fun _ h => h.of_child) fun _ h => h.of_child⟩
  -- the tag of the output is that of the value, hence that of whatever lies between
  obtain ⟨y, hy, hzy⟩ := hom.part hz
  have hytag : y.TrimOf tag := @TrimOf.parts_trim _ _ hmv (.field discriminator) y tag hy hx
  obtain rfl := hytag.eq_of_plain hplain
  have hselect' : Tagged.select? discriminator literals ys = some n := by
    rw [← hselect, Tagged.select?, Tagged.select?, hx,
      show Keyed.find? discriminator ys = some y from hy]
  simp only [Tagged.judge, hselect', Option.bind_some, hn, Option.map_some]
  exact ho'

/-! ## Intersections -/

namespace Intersection

variable {s s' : Site} {v m : Value} {c : Context}

/-- Branches that accept a value accept whatever lies above their outputs. -/
theorem judgeBranches_again {branches : List Judge} (h : ∀ j ∈ branches, j.Stable)
    (hv : v.WellKeyed) (hrun : v.nextRun ≤ s.run) (hm : m.WellKeyed) (hrun' : m.nextRun ≤ s'.run)
    (hmv : m.TrimOf v) : ∀ {n : Nat} {l : List Verdict},
    judgeBranches s v c n branches = some l → Verdict.allIssues l = [] →
    (∀ a ∈ Verdict.outputs l, a.TrimOf m) →
    ∃ l', judgeBranches s' m c n branches = some l' ∧ Verdict.allIssues l' = []
      ∧ l'.length = l.length
      ∧ Branches s s' v m n (Verdict.outputs l) (Verdict.outputs l') := by
  induction branches with
  | nil =>
    intro n l hl _ _
    cases hl
    exact ⟨[], rfl, rfl, rfl, .nil n⟩
  | cons j rest ih =>
    intro n l hl hnone habove
    obtain ⟨verdict, hj, hl⟩ := Option.bind_eq_some_iff.mp hl
    obtain ⟨others, ho, hl⟩ := Option.bind_eq_some_iff.mp hl
    cases hl
    obtain ⟨⟨a, rfl⟩, hothers⟩ := Verdict.allIssues_cons_eq_nil hnone
    have habove : ∀ b ∈ a :: Verdict.outputs others, b.TrimOf m := habove
    rw [List.forall_mem_cons] at habove h
    obtain ⟨a', ha', hpar⟩ := (h.1 hj hv hrun).2 (s'.child n) hm hrun' habove.1 hmv
    obtain ⟨others', hothers', hnone', hlen, hbranches⟩ := ih h.2 ho hothers habove.2
    refine ⟨.ok a' :: others', ?_, hnone', congrArg Nat.succ hlen, .cons hpar hbranches⟩
    simp only [judgeBranches]
    rw [ha', hothers']
    rfl

/-- Outputs of branches are trims. -/
theorem outputs_trim {branches : List Judge} (h : ∀ j ∈ branches, j.Stable) (hv : v.WellKeyed)
    (hrun : v.nextRun ≤ s.run) {l : List Verdict}
    (hl : judgeBranches s v c 0 branches = some l) :
    ∀ a ∈ Verdict.outputs l, a.TrimOf v := by
  intro a ha
  obtain ⟨j, hj, n, hjudge⟩ := judgeBranches_mem hl _ (Verdict.mem_outputs ha)
  exact (h j hj hjudge hv hrun).1

/-- At least one branch makes at least one output. -/
theorem outputs_ne_nil {branches : List Judge} (hnonempty : branches ≠ []) {l : List Verdict}
    (hl : judgeBranches s v c 0 branches = some l)
    (hnone : Verdict.allIssues l = []) : Verdict.outputs l ≠ [] := by
  cases branches with
  | nil => exact absurd rfl hnonempty
  | cons j rest =>
    obtain ⟨verdict, _, hl⟩ := Option.bind_eq_some_iff.mp hl
    obtain ⟨others, _, hl⟩ := Option.bind_eq_some_iff.mp hl
    cases hl
    obtain ⟨⟨a, rfl⟩, _⟩ := Verdict.allIssues_cons_eq_nil hnone
    exact List.cons_ne_nil a _

end Intersection

theorem Judge.Stable.intersection {branches : List Judge} (hnonempty : branches ≠ [])
    (h : ∀ j ∈ branches, j.Stable) : Judge.Stable (Intersection.judge branches) := by
  intro s v c o ho hv hrun
  obtain ⟨l, hl, hnone, hmerge⟩ := Intersection.judge_eq_ok ho
  have hne := Intersection.outputs_ne_nil hnonempty hl hnone
  have hlast : (Verdict.outputs l).length ≤ l.length := List.length_filterMap_le _ _
  -- the first run in parallel to itself: its output lies above those of all branches
  obtain ⟨l₁, hl₁, _, _, hself⟩ :=
    Intersection.judgeBranches_again h hv hrun hv hrun (.refl v) hl hnone
      (Intersection.outputs_trim h hv hrun hl)
  rw [hl] at hl₁
  cases hl₁
  obtain ⟨_, _, hparallel, habove⟩ :=
    Intersection.mergeAll_parallel hrun hrun hself hne hlast hmerge
  refine ⟨hparallel.trim, fun s' m hm hrun' hom hmv => ?_⟩
  -- so every branch accepts a value in between, and the outputs merge as before
  obtain ⟨l', hl', hnone', hlen, hbranches⟩ :=
    Intersection.judgeBranches_again h hv hrun hm hrun' hmv hl hnone
      fun a ha => (habove a ha).trans hom
  obtain ⟨o', ho', hpar, _⟩ :=
    Intersection.mergeAll_parallel hrun hrun' hbranches hne hlast hmerge
  refine ⟨o', ?_, hpar⟩
  rw [Intersection.judge, hl', Option.map_some, Intersection.combine, hnone', hlen]
  simp only [Issues.ofList?, ho']

end ValueSchema
