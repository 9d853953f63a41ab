/-
Compiled schemas judge as schemas do.

A compiled node judges by its layer, behind a test where it has an output for accepted inputs. So
it judges alike as soon as its layer does and the output fits, and both pass from the children to
the node. What is left open is how closely: without nodes that share a container the compiled form
puts out the very same values, and nothing can tell the two apart. With such nodes outputs have the
same content only, and whatever reads the outputs of a child has to be content with that, or must
have a child that shares nothing.
-/
import ValueSchema.Proofs.Compiled.Fits

set_option autoImplicit false

namespace ValueSchema

/-! ## Judging behind a test -/

theorem Node.fastJudge_eq_or {judge : Judge} {test : Test} {o : Output} {s : Site} {v : Value}
    {c : Context} {verdict : Verdict} (h : fastJudge judge test o s v c = some verdict) :
    (test s v c.depth = some true ∧ ∃ w, o.apply s v c.depth = some w ∧ verdict = .ok w)
      ∨ (test s v c.depth = some false ∧ judge s v c = some verdict) := by
  obtain ⟨passed, htest, h⟩ := Option.bind_eq_some_iff.mp h
  cases passed with
  | true =>
    obtain ⟨w, hw, hverdict⟩ := Option.map_eq_some_iff.mp h
    exact .inl ⟨htest, w, hw, hverdict.symm⟩
  | false => exact .inr ⟨htest, h⟩

/-- What the test accepts has its output looked up. -/
theorem Node.fastJudge_of_accepts {judge : Judge} {test : Test} {o : Output} {s : Site} {v : Value}
    {c : Context} (h : test s v c.depth = some true) :
    fastJudge judge test o s v c = (o.apply s v c.depth).map .ok := by
  simp only [fastJudge, h, Option.bind_eq_bind, Option.bind_some, if_true]

/-- What the test rejects is judged in full. -/
theorem Node.fastJudge_of_rejects {judge : Judge} {test : Test} {o : Output} {s : Site} {v : Value}
    {c : Context} (h : test s v c.depth = some false) :
    fastJudge judge test o s v c = judge s v c := by
  simp only [fastJudge, h, Option.bind_eq_bind, Option.bind_some]
  rfl

namespace Likeness

variable {Q R : Value → Value → Prop} {hQ : Value.Congruence Q} {hR : Value.Congruence R}

/-- Every judge is alike to itself on one value at one place. -/
theorem upTo_self (j : Judge) : (upTo R hR).Judges j j := by
  intro s s' v v' c c' hs hv hc
  cases hs
  cases hv
  cases hc
  show (upTo R hR).answer (j s v c) (j s v c)
  -- site, value and context are the very same, so it is one answer
  cases j s v c with
  | none => exact .none
  | some verdict =>
    cases verdict with
    | ok out => exact .some (.ok (hR.refl out))
    | error e => exact .some (.error (List.forall₂_same.mpr fun i _ => .refl hR.refl i))

theorem upTo_self_evaluators (e : Evaluator) : (upTo R hR).Evaluators e e where
  judge := upTo_self e.judge
  test := fun _ _ _ _ _ hs hv => by
    cases hs
    cases hv
    rfl

theorem upTo_verdict_mono (h : ∀ v w, Q v w → R v w) {a b : Verdict}
    (hab : (upTo Q hQ).verdict a b) : (upTo R hR).verdict a b := by
  cases hab with
  | ok hvw => exact .ok (h _ _ hvw)
  | error hl => exact .error (List.Forall₂.imp (fun _ _ => Issue.Like.mono h) hl)

/-- What is alike up to a closer relation is alike up to a wider one. -/
theorem upTo_mono (h : ∀ v w, Q v w → R v w) {e e' : Evaluator}
    (he : (upTo Q hQ).Evaluators e e') : (upTo R hR).Evaluators e e' where
  judge := by
    intro s s' v v' c c' hs hv hc
    rcases (he.judge hs hv hc).eq_or with ⟨hx, hy⟩ | ⟨a, b, hx, hy, hab⟩
    · rw [hx, hy]
      exact .none
    · rw [hx, hy]
      exact .some (upTo_verdict_mono h hab)
  test := he.test

/-- Up to equality nothing that reads outputs can tell them apart. -/
theorem exact_admits (s : Schema) : (upTo Eq Value.congruence_eq).Admits .sync s := by
  have hsharp : (upTo Eq Value.congruence_eq).Sharp := upTo_sharp
  cases s with
  | array _ _ => exact fun _ => keepsRepeats_of_sharp hsharp
  | tagged _ _ => exact keepsPlaces_of_keepsKeys (keepsKeys_of_sharp hsharp) _
  | literal l => exact literal_leaf hsharp l
  | words options => exact words_leaf hsharp options
  | enumeration entries => exact enumeration_leaf hsharp entries
  | set _ _ => exact keepsSameness_of_eq id
  | intersection _ => exact keepsMerging_of_eq id Iff.rfl
  | pipe _ _ => exact fun _ _ h => h
  | modified m _ =>
    refine upTo_modifies ?_
    cases m with
    | refine check text => exact fun v w h => congrArg check h
    | superRefine refiner =>
      intro path v w h
      cases h
      refine ⟨List.forall₂_same.mpr fun r _ => ?_, rfl⟩
      cases r with
      | here message => exact .here message
      | below path message => exact .below path message
      | issue i => exact .issue (.refl (fun _ => rfl) i)
    | transform mapper =>
      intro s v w h
      cases h
      rcases mapper s v with crash | mapped
      · exact .error rfl
      · rcases mapped with e | out
        · exact .ok (.error rfl)
        · exact .ok (.ok rfl)
    | _ => exact trivial
  | _ => exact trivial

end Likeness

namespace Schema

open Likeness (upTo)

variable {R : Value → Value → Prop} {hR : Value.Congruence R} {resolve : Resolution}

/-! ## One node -/

/-- An output that fits may stand in for judging what the test accepts. -/
theorem fastJudge_like {e : Evaluator} {judge : Judge} {o : Output} (hfits : o.Fits R e)
    (h : (upTo R hR).Judges e.judge judge) :
    (upTo R hR).Judges e.judge (Node.fastJudge judge e.test o) := by
  intro s s' v v' c c' hs hv hc
  have hfull := h hs hv hc
  cases hs
  cases hv
  cases hc
  -- the schema always answers here, and its test tells which way
  obtain ⟨verdict, hverdict⟩ := hfits.answers c.depth s v c rfl
  have htest := hfits.agrees hverdict
  cases verdict with
  | ok out =>
    obtain ⟨w, hw, hrel⟩ := hfits.yields hverdict
    rw [hverdict, Node.fastJudge_of_accepts htest, hw]
    exact .some (.ok hrel)
  | error e =>
    rw [Node.fastJudge_of_rejects htest]
    exact hfull

/-- The output of a compiled schema fits the schema. -/
def OutputFits (R : Value → Value → Prop) (resolve : Resolution) (s : Schema) : Prop :=
  ∀ o, (s.compile resolve).output = some o →
    (s.compile resolve).test = (s.evaluator .sync resolve).test
      ∧ o.Fits R (s.evaluator .sync resolve)

/-- A compiled node is alike to its schema as soon as its layer is and its output fits. -/
theorem compile_of_raw {s : Schema} (hfits : s.OutputFits R resolve)
    (hraw : (upTo R hR).Evaluators (s.evaluator .sync resolve) (s.raw resolve)) :
    (upTo R hR).Evaluators (s.evaluator .sync resolve) (s.compile resolve).evaluator where
  judge := by
    show (upTo R hR).Judges _ (s.compile resolve).judge
    cases ho : (s.compile resolve).output with
    | none =>
      rw [compile_judge_of_none ho]
      exact hraw.judge
    | some o =>
      obtain ⟨htest, hfit⟩ := hfits o ho
      rw [compile_judge_of_some ho, ← compile_test, htest]
      exact fastJudge_like hfit hraw.judge
  test := by
    show (upTo R hR).Tests _ (s.compile resolve).test
    rw [compile_test]
    exact hraw.test

/-- **A node over alike children is alike**, if its output fits and the likeness is one that the
node keeps. -/
theorem compile_step {s : Schema} (hs : (upTo R hR).Admits .sync s)
    (hfits : s.OutputFits R resolve)
    (h : ∀ t ∈ s.children,
      (upTo R hR).Evaluators (t.evaluator .sync resolve) (t.compile resolve).evaluator) :
    (upTo R hR).Evaluators (s.evaluator .sync resolve) (s.compile resolve).evaluator := by
  refine compile_of_raw hfits ?_
  rw [evaluator_eq_layer]
  exact ⟨Likeness.layer_judge hs (fun ref _ => Likeness.upTo_self _) fun t ht => (h t ht).judge,
    Likeness.layer_test Likeness.upTo_rooted hs (fun ref _ => Likeness.upTo_self_evaluators _) h⟩

/-! ## Schemas that share nothing -/

/-- No node of a schema shares a container with its input. -/
def Unshared (s : Schema) : Prop := s.Every fun t => ¬ t.SharesContainer

theorem carries_eq_of_not_shares {s : Schema} (h : ¬ s.SharesContainer) : s.Carries Eq where
  shared := fun hs => absurd hs h
  set := fun _ _ _ _ _ _ hl => by
    rw [List.forall₂_eq_eq_eq] at hl
    rw [hl]

theorem Unshared.carries {s : Schema} (h : s.Unshared) : s.Every (Carries Eq) :=
  h.mono fun _ => carries_eq_of_not_shares

/-- **A schema that shares nothing compiles to an equal.** Outputs are the same values, identities
included. -/
theorem compile_exact {s : Schema} (hs : s.Unshared) :
    (upTo Eq Value.congruence_eq).Evaluators (s.evaluator .sync resolve)
      (s.compile resolve).evaluator := by
  have hcarries := hs.carries
  -- nothing is shared anywhere, so outputs of children are equal and every reader is content
  induction hs with
  | intro s _ below ih =>
    exact compile_step (Likeness.exact_admits s)
      (fun o ho => compile_fits Value.congruence_eq hcarries ho)
      fun t ht => ih t ht (hcarries.child ht)

/-! ## Schemas that share content -/

/-- The children of a node whose outputs it compares, merges, judges again, or gives to code of a
caller's. -/
def outputsRead : Schema → List Schema
  | set element _ => [element]
  | intersection branches => branches
  | pipe first _ => [first]
  | modified (.refine _ _) inner => [inner]
  | modified (.superRefine _) inner => [inner]
  | modified (.transform _) inner => [inner]
  | _ => []

/-- A node cannot tell apart outputs of one content: it reads none but by code that answers alike,
or those it reads share nothing. -/
def Indifferent (s : Schema) : Prop :=
  (s.readsOutputs = false ∧ s.Respects Value.SameContent) ∨ ∀ t ∈ s.outputsRead, t.Unshared

theorem ignoresIdentity_sameContent : Value.IgnoresIdentity Value.SameContent where
  array := (Value.sameContent_array _ _ _ _).mpr
  map := (Value.sameContent_map _ _ _ _).mpr

theorem Indifferent.carries {s : Schema} (h : s.Indifferent) :
    s.Carries Value.SameContent ∨ s.Every (Carries Eq) := by
  -- a set is the one node that compares outputs of its children while it builds its own
  by_cases hset : ∃ element bounds, s = .set element bounds
  · obtain ⟨element, bounds, rfl⟩ := hset
    rcases h with ⟨hreads, _⟩ | h
    · cases hreads
    · refine .inr (Unshared.carries (.intro _ (fun h => h) fun t ht => ?_))
      cases List.mem_singleton.mp (show t ∈ [element] from ht)
      exact h element (List.mem_singleton.mpr rfl)
  · exact .inl ⟨fun _ => ignoresIdentity_sameContent, fun element bounds hs =>
      absurd ⟨element, bounds, hs⟩ hset⟩

/-- A pipe whose first schema puts out the very same values. -/
theorem pipe_judge_of_exact {j j' k k' : Judge}
    (h : (upTo Eq Value.congruence_eq).Judges j j') (hk : (upTo R hR).Judges k k') :
    (upTo R hR).Judges (j.pipe k) (j'.pipe k') := by
  intro s s' v v' c c' hs hv hc
  have hfirst := h (congrArg (Site.child · 0) hs) hv hc
  refine Option.Rel.bind hfirst fun a b hab => ?_
  -- the next schema is given the very output, and may differ up to content from there on
  cases hab with
  | ok hout => exact hk (congrArg (Site.child · 1) hs) hout hc
  | error hl =>
    exact .some (.error (List.Forall₂.imp (fun _ _ => Issue.Like.mono fun v w hvw => by
      rw [show v = w from hvw]
      exact hR.refl w) hl))

theorem sameContent_of_exact {e e' : Evaluator}
    (h : (upTo Eq Value.congruence_eq).Evaluators e e') :
    (upTo Value.SameContent Value.congruence_sameContent).Evaluators e e' :=
  Likeness.upTo_mono (fun v _ hvw => hvw ▸ Value.sameContent_refl v) h

/-- **A schema compiles to an equal up to content**, if no node of it can tell apart outputs of one
content. Below a node that reads outputs more closely everything is equal without exception. -/
theorem compile_indifferent {s : Schema} (hs : s.Every Indifferent) :
    (upTo Value.SameContent Value.congruence_sameContent).Evaluators (s.evaluator .sync resolve)
      (s.compile resolve).evaluator := by
  have hcarries := hs.mono fun _ => Indifferent.carries
  induction hs with
  | intro s node _ ih =>
    have hfits : s.OutputFits Value.SameContent resolve :=
      fun o ho => compile_fits_of_exact Value.congruence_sameContent hcarries ho
    have hchild := fun t ht => ih t ht (hcarries.child ht)
    -- a node that reads no outputs is a step; one that does has children that are exact
    rcases node with ⟨hreads, hrespects⟩ | hread
    · exact compile_step (Likeness.upTo_admits hrespects hreads) hfits hchild
    · cases s with
      | set element bounds =>
        exact sameContent_of_exact (compile_exact (.intro _ (fun h => h) hread))
      | intersection branches =>
        refine sameContent_of_exact (compile_exact (.intro _ (fun h => h) fun t ht => hread t ?_))
        simpa [outputsRead, children, bare, held] using ht
      | pipe first next =>
        have hfirst : (upTo Eq Value.congruence_eq).Judges (first.evaluator .sync resolve).judge
            (first.compile resolve).judge :=
          (compile_exact (hread first (by simp [outputsRead]))).judge
        have hnext := hchild next (by simp [children, bare, held])
        have hjudge := pipe_judge_of_exact hfirst hnext.judge
        refine compile_of_raw hfits ?_
        rw [evaluator_eq_layer]
        exact ⟨hjudge, Likeness.toTest_test Likeness.upTo_rooted hjudge⟩
      | modified m inner =>
        cases m with
        | refine _ _ | superRefine _ | transform _ =>
          refine sameContent_of_exact (compile_exact (.intro _ (fun h => h) fun t ht => hread t ?_))
          simpa [outputsRead, children, bare, held] using ht
        | _ => exact compile_step (Likeness.upTo_admits trivial rfl) hfits hchild
      | _ => exact compile_step (Likeness.upTo_admits trivial rfl) hfits hchild

end Schema

end ValueSchema
