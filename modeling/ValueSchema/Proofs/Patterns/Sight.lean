/-
What the walk knows of a pattern under way.

The frame of an open group knows whether the group holds a repetition and, if it holds none, the
first atom of each branch. That is enough to tell whether a repetition of the group is in the open.
Every token that the reader takes keeps a scan in step with the pattern under way.
-/
import ValueSchema.Proofs.Patterns.Atoms
import ValueSchema.Proofs.Patterns.Parts

set_option autoImplicit false

namespace ValueSchema

open Pattern
open Risk (Atom Scan)
open List (Forall₂)

/-! ## Frames -/

/-- The frame of a group that holds no repetition has the first atom of every branch. -/
structure Risk.Frame.Heeds (f : Risk.Frame) (branches parts : List Pattern) : Prop where
  stillParts : ∀ p ∈ parts, p.Still
  stillBranches : ∀ b ∈ branches, b.Still
  heads : ∃ current past, f.starts = current :: past ∧ Heads current parts
    ∧ Forall₂ Begins past branches

/-- Unless it has noted a repetition the frame knows the branches and parts of its group. -/
def Risk.Frame.Sees (f : Risk.Frame) (branches parts : List Pattern) : Prop :=
  f.quantified = false → f.Heeds branches parts

/-- The frame of a group that is left for one inside it: it knows what came before. -/
def Risk.Frame.Resumes (f : Risk.Frame) (frame : Pattern.Frame) : Prop :=
  frame.verbose = false ∧ ∃ g : Risk.Frame, f = g.saw .wide ∧ g.Sees frame.branches frame.parts

namespace Pattern

theorem still_of_silent {p : Pattern} (h : p.Silent) : p.Still := by
  cases p with
  | flags set => exact .flags set
  | assertion b => exact .prim (.assertion b)
  | _ => exact h.elim

end Pattern

namespace Risk.Frame

variable {f : Risk.Frame} {branches parts : List Pattern} {p : Pattern}

@[simp] theorem quantified_saw (f : Risk.Frame) (a : Atom) :
    (f.saw a).quantified = f.quantified := by
  unfold saw
  split <;> rfl

theorem starts_saw {a : Atom} {current : Option Atom} {past : List (Option Atom)}
    (h : f.starts = current :: past) : (f.saw a).starts = current.or (some a) :: past := by
  unfold saw
  rw [h]
  cases current with
  | none => rfl
  | some b => exact h

theorem sees_new : Frame.new.Sees [] [] :=
  fun _ => ⟨nofun, nofun, none, [], rfl, nofun, .nil⟩

/-- A repetition is noted. -/
theorem sees_mark (f : Risk.Frame) (branches parts : List Pattern) :
    (f.mark true).Sees branches parts := by
  intro h
  rw [mark, Bool.or_true] at h
  cases h

theorem Sees.silent (h : f.Sees branches parts) (hp : p.Silent) : f.Sees branches (p :: parts) := by
  intro hq
  obtain ⟨hparts, hbranches, current, past, hstarts, hheads, hbegins⟩ := h hq
  exact ⟨List.forall_mem_cons.mpr ⟨still_of_silent hp, hparts⟩, hbranches, current, past, hstarts,
    hheads.silent hp, hbegins⟩

/-- The first atom of a branch is kept. -/
theorem Sees.saw {a : Atom} (h : f.Sees branches parts) (hp : a.Covers p) (hstill : p.Still) :
    (f.saw a).Sees branches (p :: parts) := by
  intro hq
  rw [quantified_saw] at hq
  obtain ⟨hparts, hbranches, current, past, hstarts, hheads, hbegins⟩ := h hq
  exact ⟨List.forall_mem_cons.mpr ⟨hstill, hparts⟩, hbranches, _, past, starts_saw hstarts,
    hheads.consuming hp, hbegins⟩

theorem Sees.branch (h : f.Sees branches parts) :
    f.branch.Sees (ofParts parts.reverse :: branches) [] := by
  intro hq
  obtain ⟨hparts, hbranches, current, past, hstarts, hheads, hbegins⟩ := h hq
  have hbranch : (ofParts parts.reverse).Still :=
    .ofParts fun p hp => hparts p (List.mem_reverse.mp hp)
  refine ⟨nofun, List.forall_mem_cons.mpr ⟨hbranch, hbranches⟩, none, current :: past, ?_, nofun,
    .cons ⟨parts, rfl, hheads⟩ hbegins⟩
  rw [Risk.Frame.branch, hstarts]

/-- A group is one part of what is around it, and its repetitions are those of what is around it. -/
theorem Sees.close {quantified : Bool} {inner : Pattern} (kind : GroupKind)
    (h : f.Sees branches parts) (hinner : quantified = false → inner.Still) :
    ((f.saw .wide).mark quantified).Sees branches (.group kind inner :: parts) := by
  intro hq
  have hor : ((f.saw .wide).quantified || quantified) = false := hq
  obtain ⟨hf, hquantified⟩ := Bool.or_eq_false_iff.mp hor
  have hgroup : Atom.wide.Covers (.group kind inner) := rfl
  obtain ⟨hparts, hbranches, hheads⟩ := h.saw hgroup (.group (hinner hquantified)) hf
  exact ⟨hparts, hbranches, hheads⟩

end Risk.Frame

/-! ## Closed groups -/

namespace Pattern

/-- One branch alone is no alternation. -/
theorem Heads.not_alternation {start : Option Atom} {parts : List Pattern} (h : Heads start parts)
    (branches : List Pattern) : ofParts parts.reverse ≠ .alternation branches := by
  intro heq
  unfold ofParts at heq
  split at heq
  · cases heq
  · rename_i p hp
    obtain rfl : parts = [p] := List.reverse_injective hp
    rw [heq] at h
    cases start with
    | none => exact h _ (List.mem_singleton_self _)
    | some a =>
      obtain ⟨behind, q, front, hsplit, hq, _⟩ := h
      have hmem : q ∈ [alternation branches] := by simp [hsplit]
      cases List.mem_singleton.mp hmem
      exact hq
  · cases heq

/-- **The frame of a closing group knows what is in it**: no repetition, unless it has noted one,
and whether its branches overlap. -/
theorem still_and_ambiguous {f : Risk.Frame} {st : State} (h : f.Sees st.branches st.parts)
    (hq : f.quantified = false) : st.inner.Still
      ∧ ∀ branches, st.inner = .alternation branches → Overlapping branches →
        f.ambiguous = true := by
  obtain ⟨hparts, hbranches, current, past, hstarts, hheads, hbegins⟩ := h hq
  refine ⟨State.free_inner hparts hbranches, fun branches hinner hover => ?_⟩
  unfold State.inner at hinner
  dsimp only at hinner
  split at hinner
  · exact (hheads.not_alternation _ hinner).elim
  · rename_i hne
    cases hinner
    have hpast : past ≠ [] := by
      rintro rfl
      exact hne (List.forall₂_nil_left_iff.mp hbegins)
    have hall : Forall₂ Begins f.starts.reverse
        (st.branches.reverse ++ [ofParts st.parts.reverse]) := by
      rw [hstarts, List.reverse_cons]
      exact List.rel_append (List.rel_reverse hbegins) (.cons ⟨st.parts, rfl, hheads⟩ .nil)
    have hlength : 1 < f.starts.length := by
      rw [hstarts, List.length_cons]
      exact Nat.succ_lt_succ (List.length_pos_iff.mpr hpast)
    unfold Risk.Frame.ambiguous
    rw [anyOverlap_of_begins hall hover, decide_eq_true hlength]
    rfl

end Pattern

/-! ## Targets of operators -/

namespace Pattern

/-- What an atom stands for holds no repetition, unless it is a group. -/
theorem free_of_covers {Q : Option Nat → Pattern → Prop} {a : Atom} {p : Pattern}
    (h : a.Covers p) (hp : ∀ kind inner, p ≠ .group kind inner) : p.Free Q := by
  intro min max inner hin
  cases hin with
  | group kind _ => exact (hp kind _ rfl).elim
  | _ => exact h.elim

theorem not_alarms_of_still {max : Option Nat} {p : Pattern} (h : p.Still)
    (hgroup : ∀ kind branches, p = .group kind (.alternation branches) → ¬ Overlapping branches) :
    ¬ Alarms max p := by
  rintro ⟨_, hrepeats | ⟨kind, branches, hp, hover⟩⟩
  · exact not_repeats_of_still h hrepeats
  · exact hgroup kind branches hp hover

end Pattern

namespace Risk.Scan

variable {scan : Scan} {st : State} {a : Atom} {p : Pattern}

/-- The scan knows that a character stands before an operator, or has noted a repetition. -/
def Minds (scan : Scan) : Prop :=
  scan.last = some .simple ∨ scan.last = none ∧ scan.top.quantified = true

/-- The scan knows about the inside of the group before an operator. -/
def Knows (scan : Scan) (inner : Pattern) : Prop :=
  ∃ quantified ambiguous, scan.last = some (.group quantified ambiguous)
    ∧ (quantified = false → inner.Still
      ∧ ∀ branches, inner = .alternation branches → Overlapping branches → ambiguous = true)

/-- What an operator behind a pattern applies to, as far as it needs to be known. -/
def Aims (scan : Scan) : Pattern → Prop
  | .literal _ _ | .perl _ _ | .dot | .named _ _ | .bracketed _ _ => scan.Minds
  | .group _ inner => scan.Knows inner
  | .concat _ | .alternation _ => False
  | _ => True

theorem aims_of_covers (h : a.Covers p) (hp : ∀ kind inner, p ≠ .group kind inner)
    (hminds : scan.Minds) : scan.Aims p := by
  cases p with
  | literal c asByte | perl kind negated | dot | named name negated | bracketed negated set =>
    exact hminds
  | group kind inner => exact (hp kind inner rfl).elim
  | _ => exact h.elim

/-- An operator applies to a character or to a group. -/
theorem Aims.cases (h : scan.Aims p) (hp : p.Repeatable) (hempty : p ≠ .empty)
    (hflags : ∀ set, p ≠ .flags set) :
    (scan.Minds ∧ ∀ max, ¬ Alarms max p)
      ∨ ∃ kind inner, p = .group kind inner ∧ scan.Knows inner := by
  cases p with
  | literal c asByte | perl kind negated | dot | named name negated | bracketed negated set =>
    refine .inl ⟨h, fun max => not_alarms_of_still ?_ nofun⟩
    rintro _ _ _ ⟨⟩
  | group kind inner => exact .inr ⟨kind, inner, rfl, h⟩
  | empty => exact (hempty rfl).elim
  | flags set => exact (hflags set rfl).elim
  | concat | alternation => exact h.elim
  | repetition | assertion => exact hp.elim

/-! ## Patterns under way -/

/-- **A scan follows a pattern under way**, in which blanks are read and no repetition is in the
open. -/
structure Follows (scan : Scan) (st : State) : Prop where
  top : scan.top.Sees st.branches st.parts
  below : Forall₂ Risk.Frame.Resumes scan.below st.stack
  aims : ∀ p ∈ st.parts.head?, scan.Aims p
  verbose : st.verbose = false
  free : st.All (Free Alarms)

theorem follows_start : Scan.start.Follows ⟨[], [], [], false, []⟩ :=
  ⟨Frame.sees_new, .nil, nofun, rfl, ⟨nofun, nofun, nofun⟩⟩

/-! ## Tokens -/

theorem Follows.free_push (h : scan.Follows st) (hp : p.Free Alarms) :
    (st.push p).All (Free Alarms) :=
  ⟨List.forall_mem_cons.mpr ⟨hp, h.free.parts⟩, h.free.branches, h.free.stack⟩

/-- What consumes a character is noted as an atom. -/
theorem Follows.atom (h : scan.Follows st) (hp : a.Covers p)
    (hgroup : ∀ kind inner, p ≠ .group kind inner) : (scan.atom a).Follows (st.push p) := by
  refine ⟨h.top.saw hp (free_of_covers hp hgroup), h.below, ?_, h.verbose,
    h.free_push (free_of_covers hp hgroup)⟩
  rintro _ ⟨⟩
  exact aims_of_covers hp hgroup (.inl rfl)

/-- Where its braces are taken for counts a repetition is noted. -/
theorem Follows.marked (h : scan.Follows st) (hp : a.Covers p)
    (hgroup : ∀ kind inner, p ≠ .group kind inner) :
    Follows ⟨(scan.top.saw a).mark true, scan.below, none⟩ (st.push p) := by
  refine ⟨Frame.sees_mark _ _ _, h.below, ?_, h.verbose, h.free_push (free_of_covers hp hgroup)⟩
  rintro _ ⟨⟩
  exact aims_of_covers hp hgroup (.inr ⟨rfl, Bool.or_true _⟩)

theorem Follows.forget (h : scan.Follows st) (b : PatternAssertion) :
    scan.forget.Follows (st.push (.assertion b)) := by
  refine ⟨h.top.silent trivial, h.below, ?_, h.verbose, h.free_push (.prim (.assertion b))⟩
  rintro _ ⟨⟩
  trivial

theorem Follows.branch (h : scan.Follows st) : Follows ⟨scan.top.branch, scan.below, none⟩
    ⟨st.stack, ofParts st.parts.reverse :: st.branches, [], st.verbose, st.names⟩ := by
  have hbranch : (ofParts st.parts.reverse).Free Alarms :=
    .ofParts fun p hp => h.free.parts p (List.mem_reverse.mp hp)
  exact ⟨h.top.branch, h.below, nofun, h.verbose,
    nofun, List.forall_mem_cons.mpr ⟨hbranch, h.free.branches⟩, h.free.stack⟩

/-- Plain flags do not skip blanks. -/
theorem verbose_of_plain {set : PatternFlags} (h : set.Plain) :
    (flagState? .ignoreWhitespace set).getD false = false := by
  unfold flagState?
  cases hfind : set.find? fun e => e.1 = .ignoreWhitespace with
  | none => rfl
  | some e =>
    obtain ⟨f, on⟩ := e
    obtain rfl : f = .ignoreWhitespace := by simpa using List.find?_some hfind
    cases on with
    | false => rfl
    | true => exact (h.2 (List.mem_of_find?_eq_some hfind)).elim

theorem Follows.switch (h : scan.Follows st) {set : PatternFlags} (hset : set.Plain) :
    scan.Follows ⟨st.stack, st.branches, .flags set :: st.parts,
      (flagState? .ignoreWhitespace set).getD st.verbose, st.names⟩ := by
  have hfree := h.free_push (.flags set)
  refine ⟨h.top.silent hset, h.below, ?_, ?_, hfree.parts, hfree.branches, hfree.stack⟩
  · rintro _ ⟨⟩
    trivial
  · rw [h.verbose]
    exact verbose_of_plain hset

theorem Follows.openGroup (h : scan.Follows st) (kind : GroupKind)
    (hkind : (group kind .empty).PlainNode) (names : List String) : scan.openGroup.Follows
      ⟨⟨kind, st.branches, st.parts, st.verbose⟩ :: st.stack, [], [],
        verboseInside kind st.verbose, names⟩ := by
  refine ⟨Frame.sees_new, .cons ⟨h.verbose, scan.top, rfl, h.top⟩ h.below, nofun, ?_, nofun, nofun,
    List.forall_mem_cons.mpr ⟨⟨h.free.parts, h.free.branches⟩, h.free.stack⟩⟩
  rw [h.verbose]
  cases kind with
  | plain set => exact verbose_of_plain hkind
  | capturing => rfl

/-- At the end of a group it is known what the group holds. -/
theorem Follows.closeGroup (h : scan.Follows st) {frame : Pattern.Frame}
    {below : List Pattern.Frame} (hstack : st.stack = frame :: below) : scan.closeGroup.Follows
      ⟨below, frame.branches, .group frame.kind st.inner :: frame.parts, frame.verbose,
        st.names⟩ := by
  obtain ⟨hparts, hbranches, hall⟩ := h.free
  have hbelow := h.below
  rw [hstack] at hbelow hall
  rw [List.forall_mem_cons] at hall
  have hinner : st.inner.Free Alarms := State.free_inner hparts hbranches
  unfold Scan.closeGroup
  cases hbelow' : scan.below with
  | nil =>
    rw [hbelow'] at hbelow
    cases hbelow
  | cons parent rest =>
    rw [hbelow'] at hbelow
    obtain _ | ⟨⟨hverbose, g, rfl, hg⟩, hrest⟩ := hbelow
    have hknown := fun hq => still_and_ambiguous h.top hq
    refine ⟨hg.close frame.kind fun hq => (hknown hq).1, hrest, ?_, hverbose,
      List.forall_mem_cons.mpr ⟨.group hinner, hall.1.1⟩, hall.1.2, hall.2⟩
    rintro _ ⟨⟩
    exact ⟨_, _, rfl, hknown⟩

/-! ## Operators -/

variable {min : Nat} {max : Option Nat} {rest : List Pattern}

/-- Behind an operator nothing is aimed at. -/
theorem Follows.repeated (h : scan.Follows st) (hparts : st.parts = p :: rest)
    (hp : ¬ Alarms max p) {next : Scan} (hbelow : next.below = scan.below)
    (hnoted : next.top.quantified = true) :
    next.Follows (st.withParts (.repetition min max p :: rest)) := by
  have hall := h.free.parts
  rw [hparts, List.forall_mem_cons] at hall
  refine ⟨fun hq => ?_, ?_, ?_, h.verbose,
    List.forall_mem_cons.mpr ⟨.repetition hall.1 hp, hall.2⟩, h.free.branches, h.free.stack⟩
  · rw [hnoted] at hq
    cases hq
  · rw [hbelow]
    exact h.below
  · rintro _ ⟨⟩
    trivial

/-- **An operator that is overlooked does no harm**: it applies to a character, and a repetition is
noted already. -/
theorem Follows.overlooked (h : scan.Follows st) (hparts : st.parts = p :: rest)
    (hp : p.Repeatable) (hempty : p ≠ .empty) (hflags : ∀ set, p ≠ .flags set)
    (hlast : scan.last = none) : scan.Follows (st.withParts (.repetition min max p :: rest)) := by
  have haims : scan.Aims p := h.aims p (by rw [hparts]; rfl)
  obtain ⟨hsimple | ⟨_, hnoted⟩, hcalm⟩ | ⟨_, _, _, _, _, hgroup, _⟩ :=
    haims.cases hp hempty hflags
  · rw [hlast] at hsimple
    cases hsimple
  · exact h.repeated hparts (hcalm max) rfl hnoted
  · rw [hlast] at hgroup
    cases hgroup

/-- **A repetition in the open is a risk, and every other one is noted.** -/
theorem Follows.quantify (h : scan.Follows st) (hparts : st.parts = p :: rest)
    (hp : p.Repeatable) (hempty : p ≠ .empty) (hflags : ∀ set, p ≠ .flags set) {repeating : Bool}
    (hiterates : repeating = true ↔ Iterates max) :
    (∃ risk, scan.quantify repeating = .error risk)
      ∨ ∃ next, scan.quantify repeating = .ok next ∧ next.last = none
        ∧ next.Follows (st.withParts (.repetition min max p :: rest)) := by
  have haims : scan.Aims p := h.aims p (by rw [hparts]; rfl)
  have hnext : ¬ Alarms max p → Follows ⟨scan.top.mark true, scan.below, none⟩
      (st.withParts (.repetition min max p :: rest)) :=
    fun hp => h.repeated hparts hp rfl (Bool.or_true _)
  unfold Scan.quantify
  obtain ⟨hsimple | ⟨hlast, _⟩, hcalm⟩
      | ⟨kind, inner, rfl, quantified, ambiguous, hgroup, hknown⟩ :=
    haims.cases hp hempty hflags
  · rw [hsimple]
    exact .inr ⟨_, rfl, rfl, hnext (hcalm max)⟩
  · rw [hlast]
    exact .inr ⟨scan, rfl, hlast, h.overlooked hparts hp hempty hflags hlast⟩
  · rw [hgroup]
    cases repeating with
    | false =>
      have hcalm : ¬ Alarms max (.group kind inner) :=
        fun halarms => Bool.false_ne_true (hiterates.mpr halarms.1)
      cases quantified <;> cases ambiguous <;> exact .inr ⟨_, rfl, rfl, hnext hcalm⟩
    | true =>
      cases quantified with
      | true => exact .inl ⟨.nestedQuantifier, rfl⟩
      | false =>
        cases ambiguous with
        | true => exact .inl ⟨.overlappingAlternation, rfl⟩
        | false =>
          obtain ⟨hstill, hclear⟩ := hknown rfl
          refine .inr ⟨_, rfl, rfl, hnext (not_alarms_of_still (.group hstill) ?_)⟩
          rintro _ branches ⟨⟩ hover
          cases hclear branches rfl hover

end Risk.Scan

end ValueSchema
