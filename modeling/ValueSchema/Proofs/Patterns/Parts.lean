/-
What a reader has read stays in the pattern.

A pattern under way is made of parts and branches, on the stack of open groups. Each of them stands
in the pattern that is read in the end, so what holds of all nodes of the pattern holds of them. And
a repetition in the pattern is one in a part or in a branch: nothing else is put around them.

What the reader does at one token is a relation between patterns under way. All that is said about
a whole text is said about one token first.
-/
import ValueSchema.Proofs.Patterns.Shapes

set_option autoImplicit false

namespace ValueSchema.Pattern

/-! ## Repetitions -/

/-- No repetition in the pattern is of a certain kind. -/
def Free (Q : Option Nat → Pattern → Prop) (p : Pattern) : Prop :=
  ∀ (min : Nat) (max : Option Nat) (inner : Pattern), (repetition min max inner).Within p →
    ¬ Q max inner

/-- The pattern holds no repetition. -/
def Still (p : Pattern) : Prop := p.Free fun _ _ => True

section

variable {Q : Option Nat → Pattern → Prop}

theorem Free.ofParts {l : List Pattern} (h : ∀ p ∈ l, p.Free Q) : (ofParts l).Free Q := by
  intro min max inner hin
  unfold Pattern.ofParts at hin
  split at hin
  · cases hin
  · exact h _ (List.mem_singleton_self _) min max inner hin
  · cases hin with
    | concat hp hin => exact h _ hp min max inner hin

theorem Free.alternation {l : List Pattern} (h : ∀ p ∈ l, p.Free Q) :
    (Pattern.alternation l).Free Q := by
  intro min max inner hin
  cases hin with
  | alternation hb hin => exact h _ hb min max inner hin

theorem Free.group {kind : GroupKind} {p : Pattern} (h : p.Free Q) :
    (Pattern.group kind p).Free Q := by
  intro min max inner hin
  cases hin with
  | group _ hin => exact h min max inner hin

theorem Free.repetition {min : Nat} {max : Option Nat} {p : Pattern} (h : p.Free Q)
    (hp : ¬ Q max p) : (Pattern.repetition min max p).Free Q := by
  intro min' max' inner hin
  cases hin with
  | refl => exact hp
  | repetition _ _ hin => exact h min' max' inner hin

theorem Free.prim (prim : Primitive) : prim.toPattern.Free Q := by
  intro min max inner hin
  cases prim <;> cases hin

theorem Free.flags (set : PatternFlags) : (Pattern.flags set).Free Q := by
  intro min max inner hin
  cases hin

end

theorem not_repeats_of_still {p : Pattern} (h : p.Still) : ¬ p.Repeats :=
  fun ⟨min, max, inner, hin, _⟩ => h min max inner hin trivial

/-- No repetition of the pattern is in the open. -/
theorem not_alarming_of_free {p : Pattern} (h : p.Free Alarms) : ¬ p.Alarming :=
  fun ⟨min, max, inner, hin, halarms⟩ => h min max inner hin halarms

/-! ## Patterns under way -/

/-- All parts and branches, also those in front of the open groups. -/
structure State.All (P : Pattern → Prop) (st : State) : Prop where
  parts : ∀ p ∈ st.parts, P p
  branches : ∀ b ∈ st.branches, P b
  stack : ∀ f ∈ st.stack, (∀ p ∈ f.parts, P p) ∧ ∀ b ∈ f.branches, P b

/-- The pattern of the innermost group is made of its parts and branches. -/
theorem State.free_inner {Q : Option Nat → Pattern → Prop} {st : State}
    (hparts : ∀ p ∈ st.parts, p.Free Q) (hbranches : ∀ b ∈ st.branches, b.Free Q) :
    st.inner.Free Q := by
  have hlast : (ofParts st.parts.reverse).Free Q :=
    .ofParts fun p hp => hparts p (List.mem_reverse.mp hp)
  unfold inner
  dsimp only
  split
  · exact hlast
  · refine .alternation fun b hb => ?_
    rcases List.mem_append.mp hb with hb | hb
    · exact hbranches b (List.mem_reverse.mp hb)
    · cases List.mem_singleton.mp hb
      exact hlast

/-! ## Plain patterns under way -/

theorem Plain.node {p : Pattern} (h : p.Plain) : p.PlainNode := h p .refl

theorem plainNode_group {kind : GroupKind} {p q : Pattern} (h : (group kind p).PlainNode) :
    (group kind q).PlainNode := by
  cases kind <;> exact h

theorem Plain.of_ofParts {l : List Pattern} (h : (ofParts l).Plain) : ∀ p ∈ l, p.Plain := by
  intro p hp
  unfold Pattern.ofParts at h
  split at h
  · cases hp
  · cases List.mem_singleton.mp hp
    exact h
  · exact h.of_within (.concat hp .refl)

theorem State.plain_of_inner {st : State} (h : st.inner.Plain) :
    (∀ p ∈ st.parts, p.Plain) ∧ ∀ b ∈ st.branches, b.Plain := by
  unfold inner at h
  dsimp only at h
  split at h
  · rename_i hnil
    rw [hnil]
    exact ⟨fun p hp => h.of_ofParts p (List.mem_reverse.mpr hp), nofun⟩
  · have hbranch := fun b hb => h.of_within (.alternation hb (.refl (q := b)))
    constructor
    · exact fun p hp => (hbranch _ (by simp)).of_ofParts p (List.mem_reverse.mpr hp)
    · exact fun b hb => hbranch b (List.mem_append_left _ (List.mem_reverse.mpr hb))

/-- Parts, branches and heads of open groups are plain. -/
structure State.Plain (st : State) : Prop where
  all : st.All Pattern.Plain
  heads : ∀ f ∈ st.stack, (Pattern.group f.kind .empty).PlainNode

/-! ## One token -/

/-- The reader takes an operator with its bounds. -/
inductive ReadsBounds (verbose : Bool) : List Char → Nat → Option Nat → List Char → Prop
  | option (rest : List Char) : ReadsBounds verbose ('?' :: rest) 0 (some 1) rest
  | star (rest : List Char) : ReadsBounds verbose ('*' :: rest) 0 none rest
  | plus (rest : List Char) : ReadsBounds verbose ('+' :: rest) 1 none rest
  | counts {rest behind : List Char} {low : Nat} {high : Option Nat}
    (h : readCounts verbose rest = some (low, high, behind)) :
    ReadsBounds verbose ('\x7b' :: rest) low high (skip verbose behind)

/-- Whether blanks are skipped in a group, from its head and from what is around it. -/
def verboseInside (kind : GroupKind) (around : Bool) : Bool :=
  match kind with
  | .plain set => (flagState? .ignoreWhitespace set).getD around
  | .capturing => around

/-- The reader takes one token from a text without blanks in front. -/
inductive Reads (st : State) : List Char → State → List Char → Prop
  | switch {set : PatternFlags} {rest behind : List Char}
    (h : readOpening st.names (skip st.verbose rest) = some (.switch set, behind)) :
    Reads st ('(' :: rest) ⟨st.stack, st.branches, .flags set :: st.parts,
      (flagState? .ignoreWhitespace set).getD st.verbose, st.names⟩ behind
  | opening {kind : GroupKind} {names : List String} {rest behind : List Char}
    (h : readOpening st.names (skip st.verbose rest) = some (.group kind names, behind)) :
    Reads st ('(' :: rest) ⟨⟨kind, st.branches, st.parts, st.verbose⟩ :: st.stack, [], [],
      verboseInside kind st.verbose, names⟩ behind
  | closing {frame : Frame} {below : List Frame} (h : st.stack = frame :: below)
    (rest : List Char) : Reads st (')' :: rest) ⟨below, frame.branches,
      .group frame.kind st.inner :: frame.parts, frame.verbose, st.names⟩ rest
  | bar (rest : List Char) : Reads st ('|' :: rest)
      ⟨st.stack, ofParts st.parts.reverse :: st.branches, [], st.verbose, st.names⟩ rest
  | brackets {fuel : Nat} {q : Pattern} {rest behind : List Char}
    (h : readClass st.verbose fuel ⟨[], []⟩ ('[' :: rest) = some (q, behind)) :
    Reads st ('[' :: rest) (st.push q) behind
  | operator {s rest : List Char} {min : Nat} {max : Option Nat} {q : Pattern}
    {more : List Pattern} (h : ReadsBounds st.verbose s min max rest)
    (hparts : st.parts = q :: more) (hempty : q ≠ .empty) (hflags : ∀ set, q ≠ .flags set) :
    Reads st s (st.withParts (repetition min max q :: more)) (skipLazy rest)
  | primitive {s rest : List Char} {prim : Primitive}
    (h : readPrimitive st.verbose s = some (prim, rest))
    (hfree : ∀ c more, s = c :: more → c ∉ "()|[?*+\x7b".toList) :
    Reads st s (st.push prim.toPattern) rest

theorem repeatLast?_eq_some {min : Nat} {max : Option Nat} {parts parts' : List Pattern}
    (h : repeatLast? min max parts = some parts') : ∃ p rest, parts = p :: rest
      ∧ parts' = repetition min max p :: rest ∧ p ≠ .empty ∧ ∀ set, p ≠ .flags set := by
  unfold repeatLast? at h
  split at h
  · cases h
  · cases h
  · cases h
  · rename_i p rest hempty hflags
    cases h
    exact ⟨p, rest, rfl, rfl, hempty, hflags⟩

/-- **A step of the reader** is the end of the text or one token. -/
theorem readFrom_cases {fuel : Nat} {st : State} {s : List Char} {p : Pattern}
    (h : readFrom (fuel + 1) st s = some p) :
    (skip st.verbose s = [] ∧ st.stack = [] ∧ st.inner = p)
      ∨ ∃ st' s', Reads st (skip st.verbose s) st' s' ∧ readFrom fuel st' s' = some p := by
  have hoperator : ∀ {text rest : List Char} {min : Nat} {max : Option Nat}
      {parts : List Pattern}, ReadsBounds st.verbose text min max rest →
      repeatLast? min max st.parts = some parts →
      readFrom fuel (st.withParts parts) (skipLazy rest) = some p →
      ∃ st' s', Reads st text st' s' ∧ readFrom fuel st' s' = some p := by
    intro text rest min max parts hbounds hparts h
    obtain ⟨q, more, hq, rfl, hempty, hflags⟩ := repeatLast?_eq_some hparts
    exact ⟨_, _, .operator hbounds hq hempty hflags, h⟩
  unfold readFrom at h
  generalize skip st.verbose s = text at h ⊢
  split at h
  · split at h
    · exact .inl ⟨rfl, List.isEmpty_iff.mp ‹_›, Option.some.inj h⟩
    · cases h
  all_goals right
  · split at h
    · cases h
    · exact ⟨_, _, .switch ‹_›, h⟩
    · exact ⟨_, _, .opening ‹_›, h⟩
  · split at h
    · cases h
    · exact ⟨_, _, .closing ‹_› _, h⟩
  · exact ⟨_, _, .bar _, h⟩
  · split at h
    · cases h
    · exact ⟨_, _, .brackets ‹_›, h⟩
  · split at h
    · cases h
    · exact hoperator (.option _) ‹_› h
  · split at h
    · cases h
    · exact hoperator (.star _) ‹_› h
  · split at h
    · cases h
    · exact hoperator (.plus _) ‹_› h
  · split at h
    · cases h
    · split at h
      · cases h
      · exact hoperator (.counts ‹_›) ‹_› h
  · rename_i hopen hclose hbar hbracket hoption hstar hplus hbrace
    split at h
    · cases h
    · refine ⟨_, _, .primitive ‹_› ?_, h⟩
      rintro c more rfl hc
      simp only [String.reduceToList, List.mem_cons, List.not_mem_nil, or_false] at hc
      rcases hc with rfl | rfl | rfl | rfl | rfl | rfl | rfl | rfl
      · exact hopen _ rfl
      · exact hclose _ rfl
      · exact hbar _ rfl
      · exact hbracket _ rfl
      · exact hoption _ rfl
      · exact hstar _ rfl
      · exact hplus _ rfl
      · exact hbrace _ rfl

/-! ## Back to where a plain pattern is read from -/

theorem State.plain_of_push {st : State} {p : Pattern} {verbose : Bool} {names : List String}
    (h : State.Plain ⟨st.stack, st.branches, p :: st.parts, verbose, names⟩) : st.Plain :=
  ⟨⟨fun q hq => h.all.parts q (List.mem_cons_of_mem _ hq), h.all.branches, h.all.stack⟩, h.heads⟩

/-- **What a token of a plain pattern is read behind is plain.** -/
theorem plain_of_reads {st st' : State} {s s' : List Char} (h : Reads st s st' s')
    (hplain : st'.Plain) : st.Plain := by
  obtain ⟨⟨hparts, hbranches, hstack⟩, hheads⟩ := hplain
  cases h with
  | switch | brackets | primitive =>
    exact State.plain_of_push ⟨⟨hparts, hbranches, hstack⟩, hheads⟩
  | opening =>
    rw [List.forall_mem_cons] at hstack hheads
    exact ⟨⟨hstack.1.1, hstack.1.2, hstack.2⟩, hheads.2⟩
  | @closing frame below hopen =>
    rw [List.forall_mem_cons] at hparts
    obtain ⟨hinner, hafter⟩ :=
      State.plain_of_inner (hparts.1.of_within (.group frame.kind .refl))
    refine ⟨⟨hinner, hafter, ?_⟩, ?_⟩
    · rw [hopen, List.forall_mem_cons]
      exact ⟨⟨hparts.2, hbranches⟩, hstack⟩
    · rw [hopen, List.forall_mem_cons]
      exact ⟨plainNode_group hparts.1.node, hheads⟩
  | bar =>
    rw [List.forall_mem_cons] at hbranches
    exact ⟨⟨fun q hq => hbranches.1.of_ofParts q (List.mem_reverse.mpr hq), hbranches.2, hstack⟩,
      hheads⟩
  | @operator s rest min max q more _ hlast =>
    simp only [State.withParts, List.forall_mem_cons] at hparts
    refine ⟨⟨?_, hbranches, hstack⟩, hheads⟩
    rw [hlast, List.forall_mem_cons]
    exact ⟨hparts.1.of_within (.repetition min max .refl), hparts.2⟩

/-- **What a plain pattern is read from is plain.** -/
theorem plain_of_readFrom {fuel : Nat} : ∀ {st : State} {s : List Char} {p : Pattern},
    readFrom fuel st s = some p → p.Plain → st.Plain := by
  induction fuel with
  | zero => exact fun h => nomatch h
  | succ fuel ih =>
    intro st s p h hp
    obtain ⟨_, hstack, rfl⟩ | ⟨st', s', hreads, hnext⟩ := readFrom_cases h
    · obtain ⟨hparts, hbranches⟩ := State.plain_of_inner hp
      refine ⟨⟨hparts, hbranches, ?_⟩, ?_⟩
      · rw [hstack]
        exact nofun
      · rw [hstack]
        exact nofun
    · exact plain_of_reads hreads (ih hnext hp)

end ValueSchema.Pattern
