/-
Compiled schemas are correct.

Three laws close the comparison of schemas and their compiled forms. Compiled schemas are coherent:
their tests agree with their judges, as those of schemas do. They come to an answer wherever
schemas do, although an accepted input is never judged in full and its output is looked up in what
was compiled. And they judge as schemas do, with the same issues and outputs of the same content.
-/
import ValueSchema.Proofs.Compiled.Judging
import ValueSchema.Proofs.Termination.Families

set_option autoImplicit false

namespace ValueSchema

open List (Forall₂)

/-! ## Coherence -/

section

variable {e : Evaluator} {o : Output}

/-- Testing first keeps an evaluator coherent: whatever the path, the same test decides whether the
output is looked up. -/
theorem Evaluator.Coherent.fastJudge (h : e.Coherent) :
    Evaluator.Coherent ⟨Node.fastJudge e.judge e.test o, e.test⟩ where
  agrees := by
    intro s v c verdict hv
    rcases Node.fastJudge_eq_or hv with ⟨htest, w, _, rfl⟩ | ⟨_, hjudge⟩
    · exact htest
    · exact h.agrees hjudge
  pathFree := by
    refine ⟨fun s s' v v' c c' hs hv hc => ?_, h.pathFree.test⟩
    have hjudge := h.pathFree.judge hs hv hc
    cases hs
    cases hv
    have hdepth : c.depth = c'.depth := hc
    -- the test has no path, so both contexts take one branch
    cases htest : e.test s v c'.depth with
    | none =>
      simp only [Node.fastJudge, hdepth, htest]
      exact .none
    | some passed =>
      have htest' := htest
      rw [← hdepth] at htest'
      cases passed with
      | false =>
        show Likeness.pathFree.answer (Node.fastJudge _ _ o s v c) (Node.fastJudge _ _ o s v c')
        rw [Node.fastJudge_of_rejects htest, Node.fastJudge_of_rejects htest']
        exact hjudge
      | true =>
        show Likeness.pathFree.answer (Node.fastJudge _ _ o s v c) (Node.fastJudge _ _ o s v c')
        rw [Node.fastJudge_of_accepts htest, Node.fastJudge_of_accepts htest', hdepth]
        cases o.apply s v c'.depth with
        | none => exact .none
        | some w => exact .some (.ok rfl)

end

/-! ## Outlines -/

/-- What the next step of judging looks at in an output: whether it is undefined, and its text. -/
def Value.SameOutline (v w : Value) : Prop := v.isUndefined = w.isUndefined ∧ v.string? = w.string?

theorem Value.congruence_sameOutline : Value.Congruence Value.SameOutline where
  refl := fun _ => ⟨rfl, rfl⟩
  undefined := fun h => h.1
  string := fun h => h.2
  array := fun _ => ⟨rfl, rfl⟩
  object := fun _ => ⟨rfl, rfl⟩
  map := fun _ => ⟨rfl, rfl⟩
  set := fun _ => ⟨rfl, rfl⟩

namespace Schema

variable {resolve : Resolution} {s : Schema}

/-- A compiled schema is coherent if its references are. -/
theorem compile_coherent (hs : s.Every PathBlind) (href : ∀ ref, (resolve ref).Coherent) :
    (s.compile resolve).evaluator.Coherent := by
  induction hs with
  | intro s node _ ih =>
    have hadmits := Likeness.pathFree_admits node
    have hlike : Likeness.pathFree.Evaluators (s.raw resolve) (s.raw resolve) :=
      ⟨Likeness.layer_judge hadmits (fun ref _ => (href ref).pathFree.judge)
          fun t ht => (ih t ht).pathFree.judge,
        Likeness.layer_test Likeness.pathFree_rooted hadmits (fun ref _ => (href ref).pathFree)
          fun t ht => (ih t ht).pathFree⟩
    have hraw : (s.raw resolve).Coherent :=
      ⟨layer_agrees (fun _ => hlike.judge) (fun ref _ => (href ref).agrees)
        fun t ht => (ih t ht).agrees, hlike⟩
    unfold Node.evaluator
    rw [compile_test]
    -- a node without an output judges by its layer, one with an output tests first
    cases ho : (s.compile resolve).output with
    | none =>
      rw [compile_judge_of_none ho]
      exact hraw
    | some o =>
      rw [compile_judge_of_some ho]
      exact hraw.fastJudge

/-! ## Answers -/

theorem carries_sameOutline (s : Schema) : s.Carries Value.SameOutline where
  shared := fun _ => ⟨fun _ => ⟨rfl, rfl⟩, fun _ => ⟨rfl, rfl⟩⟩
  set := fun _ _ _ _ _ _ _ => ⟨rfl, rfl⟩

theorem every_carries_sameOutline (s : Schema) : s.Every (Carries Value.SameOutline) := by
  induction s using Schema.induction with
  | node s ih => exact .intro s (carries_sameOutline s) ih

/-- A compiled node answers where its layer does: an accepted input has an output. -/
theorem compile_answersByLayers :
    AnswersByLayers .sync resolve fun t => (t.compile resolve).evaluator := by
  intro s depth hraw
  show (s.compile resolve).judge.Answers depth
  cases ho : (s.compile resolve).output with
  | none =>
    rw [compile_judge_of_none ho]
    exact hraw
  | some o =>
    obtain ⟨htest, hfits⟩ :=
      compile_fits Value.congruence_sameOutline (every_carries_sameOutline s) ho
    rw [compile_judge_of_some ho, ← compile_test, htest]
    intro site v c hc
    -- the schema answers, and what it accepts has its output there
    obtain ⟨verdict, hverdict⟩ := hfits.answers depth site v c hc
    have htested := hfits.agrees hverdict
    cases verdict with
    | error e =>
      obtain ⟨verdict', hverdict'⟩ := hraw site v c hc
      exact ⟨verdict', (Node.fastJudge_of_rejects htested).trans hverdict'⟩
    | ok out =>
      obtain ⟨w, hw, _⟩ := hfits.yields hverdict
      exact ⟨.ok w, by rw [Node.fastJudge_of_accepts htested, hw]; rfl⟩

end Schema

/-! ## Laws -/

/-- A schema and its compiled form come to like verdicts: both accept, with outputs of the same
content, or both reject with the same issues in the same order, up to identities in what they
received. -/
def Schema.JudgedAlike (schema : Schema) (family : Family) (v : Value) (c : Context) : Prop :=
  Option.Rel (Verdict.Like Value.SameContent (Forall₂ (Issue.Like Value.SameContent)))
    (schema.validateIn family v c) (schema.validateCompiledIn family v c)

section

variable {schema : Schema} {family : Family}

/-- **Testing agrees with judging**, for a schema and for its compiled form. Both come to a verdict
on every value if the family is the ground of the schema, and the tests answer yes exactly if the
verdict accepts. -/
theorem accepts_eq_isOk (hs : schema.Every Schema.PathBlind)
    (hf : ∀ e ∈ family, e.2.Every Schema.PathBlind) (v : Value) (c : Context) :
    (∀ verdict, schema.validateIn family v c = some verdict →
        schema.acceptsIn family v c.depth = some verdict.isOk)
      ∧ (∀ verdict, schema.validateCompiledIn family v c = some verdict →
        schema.acceptsCompiledIn family v c.depth = some verdict.isOk)
      ∧ (family.Grounds schema →
        (∃ verdict, schema.validateIn family v c = some verdict)
          ∧ ∃ verdict, schema.validateCompiledIn family v c = some verdict) := by
  have href := Schema.resolution_coherent hf (family.budget schema v)
  refine ⟨fun verdict h => ?_, fun verdict h => ?_, fun hg => ⟨?_, ?_⟩⟩
  · exact (Schema.evaluator_coherent hs href).agrees h
  · exact (Schema.compile_coherent hs href).agrees h
  · exact Family.evaluator_answers .sync hg v c.depth _ v c rfl
  · exact Family.layered_answers Schema.compile_answersByLayers hg c.depth _ v c rfl

theorem accepts_eq_isOk_twig :
    (∀ verdict, Schema.labelOrTree.validateIn Family.trees Value.twig Context.root = some verdict →
        Schema.labelOrTree.acceptsIn Family.trees Value.twig 0 = some verdict.isOk)
      ∧ (∀ verdict,
        Schema.labelOrTree.validateCompiledIn Family.trees Value.twig Context.root = some verdict →
        Schema.labelOrTree.acceptsCompiledIn Family.trees Value.twig 0 = some verdict.isOk)
      ∧ (∃ verdict,
          Schema.labelOrTree.validateIn Family.trees Value.twig Context.root = some verdict)
      ∧ ∃ verdict,
          Schema.labelOrTree.validateCompiledIn Family.trees Value.twig Context.root
            = some verdict := by
  have hblind : Schema.labelOrTree.Every Schema.PathBlind :=
    Schema.labelOrTree_every trivial (fun _ _ _ => Iff.rfl) trivial trivial
  have htrees : ∀ e ∈ Family.trees, e.2.Every Schema.PathBlind := by
    intro e he
    cases List.mem_singleton.mp he
    exact Schema.treeNode_every trivial trivial trivial trivial
  obtain ⟨hjudged, hcompiled, hanswers⟩ := accepts_eq_isOk hblind htrees Value.twig Context.root
  exact ⟨hjudged, hcompiled, hanswers Family.trees_grounds⟩

/-- **Compiling is correct.** Where no node compares, merges or judges again what its children put
out, and the code that is called on outputs answers alike on the same content, a schema and its
compiled form come to like verdicts, and their tests to one answer. -/
theorem validateCompiled_like
    (hs : schema.Every fun s => s.readsOutputs = false ∧ s.Respects Value.SameContent)
    (v : Value) (c : Context) :
    schema.JudgedAlike family v c
      ∧ schema.acceptsCompiledIn family v c.depth = schema.acceptsIn family v c.depth
      ∧ (family.Grounds schema →
        (∃ verdict, schema.validateIn family v c = some verdict)
          ∧ ∃ verdict, schema.validateCompiledIn family v c = some verdict) := by
  have hlike : (Likeness.upTo Value.SameContent Value.congruence_sameContent).Evaluators
      (family.evaluator .sync schema v) (family.compiled schema v).evaluator :=
    Schema.compile_indifferent (hs.mono fun _ h => .inl h)
  refine ⟨hlike.judge rfl rfl rfl, (hlike.test c.depth rfl rfl).symm, fun hg => ⟨?_, ?_⟩⟩
  · exact Family.evaluator_answers .sync hg v c.depth _ v c rfl
  · exact Family.layered_answers Schema.compile_answersByLayers hg c.depth _ v c rfl

theorem validateCompiled_like_twig :
    Schema.labelOrTree.JudgedAlike Family.trees Value.twig Context.root
      ∧ Schema.labelOrTree.acceptsCompiledIn Family.trees Value.twig 0
        = Schema.labelOrTree.acceptsIn Family.trees Value.twig 0
      ∧ (∃ verdict,
          Schema.labelOrTree.validateIn Family.trees Value.twig Context.root = some verdict)
      ∧ ∃ verdict,
          Schema.labelOrTree.validateCompiledIn Family.trees Value.twig Context.root
            = some verdict := by
  have hnodes : Schema.labelOrTree.Every fun s =>
      s.readsOutputs = false ∧ s.Respects Value.SameContent := by
    refine Schema.labelOrTree_every ⟨rfl, trivial⟩ ⟨rfl, fun path v w hvw => ⟨.nil, ?_⟩⟩
      ⟨rfl, trivial⟩ ⟨rfl, trivial⟩
    exact congrArg (fun text => Except.ok (text != some "")) (Value.string?_eq_of_sameContent hvw)
  obtain ⟨hlike, htest, hanswers⟩ :=
    @validateCompiled_like Schema.labelOrTree Family.trees hnodes Value.twig Context.root
  exact ⟨hlike, htest, hanswers Family.trees_grounds⟩

end

end ValueSchema
