/-
Tests of schemas agree with judges.

Beside the containers stand the leaves, whose two halves decide by one and the same failure, and
the nodes that judge one value several times. Some of those have no test of their own and judge at
the root instead, so agreement goes together with judging alike at all paths. Both pass through
every layer, and from the layers through all schemas and all definitions behind references.
-/
import ValueSchema.Proofs.Agreement.Containers
import ValueSchema.Proofs.Likeness.Paths

set_option autoImplicit false

namespace ValueSchema

namespace Judge.Agrees

variable {s : Site} {v : Value} {c : Context}

/-! ## Leaves -/

theorem leaf {run : Context → Value → Verdict} {accepts : Value → Bool}
    (h : ∀ c v, (run c v).isOk = accepts v) :
    (Evaluator.leaf run accepts).judge.Agrees (Evaluator.leaf run accepts).test := by
  intro s v c verdict hv
  cases hv
  exact congrArg some (h c v).symm

theorem text_isOk (t : TextSchema) (c : Context) (v : Value) : (t.run c v).isOk = t.accepts v := by
  cases v with
  | string s =>
    simp only [TextSchema.run, TextSchema.accepts]
    rcases t.firstFailure? s with _ | k | r <;> rfl
  | _ => rfl

theorem number_isOk (n : NumberSchema) (c : Context) (v : Value) :
    (n.run c v).isOk = n.accepts v := by
  cases v with
  | number x =>
    simp only [NumberSchema.run, NumberSchema.accepts]
    by_cases hn : x.isNaN = true
    · rw [if_pos hn, hn]; rfl
    · rw [if_neg hn, Bool.eq_false_iff.mpr hn]
      cases n.firstFailure? x <;> rfl
  | _ => rfl

theorem integer_isOk (n : IntegerSchema) (c : Context) (v : Value) :
    (n.run c v).isOk = n.accepts v := by
  cases v with
  | bigint x =>
    simp only [IntegerSchema.run, IntegerSchema.accepts]
    cases n.firstFailure? x <;> rfl
  | _ => rfl

theorem plain_isOk (p : PlainSchema) (c : Context) (v : Value) :
    (p.run c v).isOk = p.accepts v := by
  unfold PlainSchema.run
  cases p.accepts v <;> rfl

theorem literal_isOk (l : Value) (c : Context) (v : Value) :
    (Literal.run l c v).isOk = Literal.accepts l v := by
  unfold Literal.run Literal.accepts
  cases l.sameValueZero v <;> rfl

theorem words_isOk (options : List String) (c : Context) (v : Value) :
    (Words.run options c v).isOk = Words.accepts options v := by
  unfold Words.run
  cases Words.accepts options v <;> rfl

theorem enumeration_isOk (entries : List (String × Value)) (c : Context) (v : Value) :
    (Enumeration.run entries c v).isOk = Enumeration.accepts entries v := by
  unfold Enumeration.run
  cases Enumeration.accepts entries v <;> rfl

/-- The bounds of a date are looked at from outside by the judge and from inside by the test. -/
theorem kept_eq_isNone {wrong right : Timestamp → Bool} (h : ∀ b, right b = !wrong b)
    (bound : Option Timestamp) :
    DateSchema.kept right bound = (DateSchema.violated? wrong bound).isNone := by
  cases bound with
  | none => rfl
  | some b =>
    simp only [DateSchema.kept, DateSchema.violated?, h b]
    -- a bound that is broken is not kept, and the other way round
    cases hw : wrong b <;> simp [Option.filter, hw]

/-- One time is at or before another exactly if the other is not before it. -/
theorem le_eq_not_lt (a b : Timestamp) : a.le b = !b.lt a := by
  simp only [Timestamp.le, Timestamp.lt, ← decide_not, Int.not_lt]

theorem date_isOk (d : DateSchema) (c : Context) (v : Value) : (d.run c v).isOk = d.accepts v := by
  cases v with
  | date t =>
    cases t with
    | none => rfl
    | some t =>
      have hmin := kept_eq_isNone (fun b => le_eq_not_lt b t) d.min
      have hmax := kept_eq_isNone (fun b => le_eq_not_lt t b) d.max
      simp only [DateSchema.run, DateSchema.failure?, DateSchema.accepts, hmin, hmax]
      cases DateSchema.violated? (fun b => t.lt b) d.min with
      | some b => rfl
      | none => cases DateSchema.violated? (fun b => b.lt t) d.max <;> rfl
  | _ => rfl

/-! ## Unions -/

section

variable {σ : Type} {j : σ → Judge} {t : σ → Test}

/-- The options are asked in one order, and the first that accepts is the first that passes. -/
theorem firstPassing?_of_firstOutput? {options : List σ}
    (h : ∀ x ∈ options, (j x).Agrees (t x)) : ∀ {n : Nat} {found : Option Value},
    Union.firstOutput? s v c n (options.map j) = some found →
    (Union.firstPassing? s v c.depth n (options.map t)).map Option.isSome
      = some found.isSome := by
  induction options with
  | nil =>
    intro n found hf
    cases hf
    rfl
  | cons x rest ih =>
    intro n found hf
    simp only [List.forall_mem_cons] at h
    obtain ⟨verdict, hv, hf⟩ := Option.bind_eq_some_iff.mp hf
    have hx : t x (s.child n) v c.depth = some verdict.isOk := h.1 hv
    simp only [List.map_cons, Union.firstPassing?]
    rw [hx]
    -- the first option that accepts decides, those before it are passed over
    cases verdict with
    | ok output =>
      cases hf
      rfl
    | error e => exact ih h.2 hf

theorem union {options : List σ} (h : ∀ x ∈ options, (j x).Agrees (t x)) :
    Judge.Agrees (Union.judge (options.map j)) (Union.test (options.map t)) := by
  intro s v c verdict hv
  obtain ⟨found, hf, hv⟩ := Option.bind_eq_some_iff.mp hv
  unfold Union.test
  rw [firstPassing?_of_firstOutput? h hf]
  cases found with
  | some output =>
    cases hv
    rfl
  | none =>
    cases hv
    rfl

theorem tagged (discriminator : String) (literals : List (Option Value)) {options : List σ}
    (h : ∀ x ∈ options, (j x).Agrees (t x)) :
    Judge.Agrees (Tagged.judge discriminator literals (options.map j))
      (Tagged.test discriminator literals (options.map t)) := by
  intro s v c verdict hv
  cases v with
  | object id fields =>
    simp only [Tagged.judge, Tagged.test, List.getElem?_map] at hv ⊢
    cases hsel : Tagged.select? discriminator literals fields with
    | none =>
      rw [hsel] at hv
      cases hv
      rfl
    | some n =>
      rw [hsel] at hv
      cases hn : options[n]? with
      | none =>
        rw [Option.bind_some, hn] at hv ⊢
        cases hv
        rfl
      | some x =>
        rw [Option.bind_some, hn] at hv ⊢
        exact h x (List.mem_of_getElem? hn) hv
  | _ =>
    cases hv
    rfl

end

/-! ## Nodes that judge to test -/

/-- A test that judges at the root agrees with a judge for which the path makes no difference. -/
theorem toTest {j : Judge} (hfree : Likeness.pathFree.Judges j j) : j.Agrees j.toTest := by
  intro s v c verdict hv
  -- the test judges at the root, the judge was asked at some path
  have hlike : Likeness.pathFree.answer (j s v c) (j s v (Context.withDepth c.depth)) :=
    hfree rfl rfl rfl
  unfold Judge.toTest
  rcases hlike.eq_or with ⟨hnone, _⟩ | ⟨a, b, ha, hb, hab⟩
  · rw [hv] at hnone
    cases hnone
  · rw [hv, Option.some.injEq] at ha
    rw [hb, Option.map_some, ha, Likeness.verdict_isOk hab]

/-- What a modifier lets pass before the schema inside is asked passes the test, too. -/
theorem passing (passes : Value → Bool) (output : Value → Value) {j : Judge} {t : Test}
    (h : j.Agrees t) :
    Judge.Agrees (fun s v c => if passes v then some (.ok (output v)) else j s v c)
      (fun s v depth => if passes v then some true else t s v depth) := by
  intro s v c verdict hv
  beta_reduce at hv ⊢
  by_cases hp : passes v = true
  · rw [if_pos hp] at hv ⊢
    cases hv
    rfl
  · rw [if_neg hp] at hv ⊢
    exact h hv

theorem modifier {m : Modifier} {j : Judge} {t : Test} (h : j.Agrees t)
    (hfree : m.needsOutput = true →
      Likeness.pathFree.Judges (m.judge .sync j) (m.judge .sync j)) :
    (m.judge .sync j).Agrees (m.test t (m.judge .sync j)) := by
  intro s v c verdict hv
  -- modifiers that depend on outputs have no test but that of the whole judge
  have hfull := fun hm => toTest (hfree hm) hv
  cases m with
  | optional => exact passing Value.isUndefined (fun _ => .undefined) h hv
  | nullable => exact passing Value.isNull (fun _ => .null) h hv
  | nullish => exact passing (fun v => v.isUndefined || v.isNull) id h hv
  | default standard => exact h hv
  | fallback replacement =>
    obtain ⟨inner, _, hv⟩ := Option.bind_eq_some_iff.mp hv
    cases inner <;> cases hv <;> rfl
  | message text =>
    obtain ⟨inner, hin, hv⟩ := Option.map_eq_some_iff.mp hv
    rw [← hv]
    refine (h hin).trans ?_
    cases inner <;> rfl
  | refine _ _ => exact hfull rfl
  | superRefine _ => exact hfull rfl
  | transform _ => exact hfull rfl
  | preprocess _ => exact hfull rfl
  | refineAsync _ _ => exact h hv
  | transformAsync _ => exact h hv
  | preprocessAsync _ => exact h hv

end Judge.Agrees

/-! ## Layers -/

/-- An evaluator whose test agrees with its judge, and which is alike to itself at all paths. -/
structure Evaluator.Coherent (e : Evaluator) : Prop where
  agrees : e.judge.Agrees e.test
  pathFree : Likeness.pathFree.Evaluators e e

namespace Schema

open Judge (Agrees)

variable {resolve : Resolution} {child : Schema → Evaluator} {s : Schema}

/-- A node without a test of its own, which judges to test. -/
def judgesToTest : Schema → Bool
  | intersection _ => true
  | modified m _ => m.needsOutput
  | pipe _ _ => true
  | _ => false

/-- **A layer over children that agree agrees.** -/
theorem layer_agrees
    (hfree : s.judgesToTest = true → Likeness.pathFree.Judges
      (s.layer .sync resolve child).judge (s.layer .sync resolve child).judge)
    (href : ∀ ref, s = .lazy ref → (resolve ref).judge.Agrees (resolve ref).test)
    (h : ∀ t ∈ s.children, (child t).judge.Agrees (child t).test) :
    (s.layer .sync resolve child).judge.Agrees (s.layer .sync resolve child).test := by
  have hbare := fun t (ht : t ∈ s.bare) => h t (mem_children_of_bare ht)
  have hheld := fun t (ht : t ∈ s.held) => h t (mem_children_of_held ht)
  cases s with
  | text t => exact .leaf (Agrees.text_isOk t)
  | number n => exact .leaf (Agrees.number_isOk n)
  | integer n => exact .leaf (Agrees.integer_isOk n)
  | date d => exact .leaf (Agrees.date_isOk d)
  | plain p => exact .leaf (Agrees.plain_isOk p)
  | literal l => exact .leaf (Agrees.literal_isOk l)
  | words options => exact .leaf (Agrees.words_isOk options)
  | enumeration entries => exact .leaf (Agrees.enumeration_isOk entries)
  | object shape => exact .object fun f hf => hheld f.2 (List.mem_map_of_mem hf)
  | array element bounds => exact .array bounds (hheld element (by simp [held]))
  | tuple items rest limits => exact .tuple limits hheld
  | record key value limits =>
    refine .record limits (fun x hx => hheld x ?_) (hheld value (by simp [held]))
    simp [held, Option.mem_def.mp hx]
  | map key value limits =>
    exact .map limits (hheld key (by simp [held])) (hheld value (by simp [held]))
  | set element bounds => exact .set bounds (hheld element (by simp [held]))
  | union options => exact .union hbare
  | tagged discriminator options =>
    exact .tagged discriminator _ fun o ho => hbare (.object o) (List.mem_map_of_mem ho)
  | intersection branches => exact .toTest (hfree rfl)
  | lazy ref => exact href ref rfl
  | modified m inner => exact .modifier (hbare inner (by simp [bare])) hfree
  | pipe first next => exact .toTest (hfree rfl)

theorem coherent_unresolved : Evaluator.Coherent .unresolved where
  agrees := fun _ _ _ _ hv => nomatch hv
  pathFree := Likeness.unresolved_like

/-- A schema is coherent if its references are. -/
theorem evaluator_coherent (hs : s.Every PathBlind) (href : ∀ ref, (resolve ref).Coherent) :
    (s.evaluator .sync resolve).Coherent := by
  induction hs with
  | intro s node below ih =>
    -- judging alike at all paths needs the whole schema, agreement only the layer
    have hlike : Likeness.pathFree.Evaluators (s.evaluator .sync resolve)
        (s.evaluator .sync resolve) :=
      Likeness.evaluator_like Likeness.pathFree_rooted
        ((Every.intro s node below).mono fun _ => Likeness.pathFree_admits)
        fun ref => (href ref).pathFree
    refine ⟨?_, hlike⟩
    rw [evaluator_eq_layer] at hlike ⊢
    exact layer_agrees (fun _ => hlike.judge) (fun ref _ => (href ref).agrees)
      fun t ht => (ih t ht).agrees

/-- However often definitions are unfolded, references are coherent. -/
theorem resolution_coherent {family : Family} (hf : ∀ e ∈ family, e.2.Every PathBlind)
    (budget : Nat) (ref : Reference) : (family.resolution .sync budget ref).Coherent :=
  Family.resolution_induction coherent_unresolved
    (fun e he _ hrefs => evaluator_coherent (hf e he) hrefs) budget ref

end Schema

end ValueSchema
