/-
Explosive shapes in the open are refused.

The walk is led along the text of a plain pattern in step with its reader. Where the reader makes a
repetition that is in the open, the walk stops with a risk, so at the end of the text there is no
such repetition in the pattern. A pattern with a risk gets no machine.
-/
import ValueSchema.Proofs.Patterns.Classes
import ValueSchema.Proofs.Patterns.Sight

set_option autoImplicit false

namespace ValueSchema

open Pattern
open Risk (Scan Passes Refuses Operator)

/-! ## Places in the text -/

namespace Risk

/-- The walk stands where the reader stands, or it has taken the mark there for one that belongs to
an operator. -/
def Scan.At (scan : Scan) (s t : List Char) : Prop := t = s ∨ scan.last = none ∧ t = skipMark s

/-- Where there is no mark the walk stands where the reader stands. -/
theorem Scan.At.eq {scan : Scan} {s t : List Char} (h : scan.At s t) (hs : skipMark s = s) :
    t = s := by
  obtain rfl | ⟨_, rfl⟩ := h
  · rfl
  · exact hs

variable {scan : Scan} {st : State} {s t rest : List Char}

/-- The reader takes a question mark behind an operator for a mark, and the walk also a plus. -/
theorem Scan.at_skipLazy (h : scan.last = none) (rest : List Char) :
    scan.At (skipLazy rest) (skipMark rest) := by
  unfold skipLazy
  split
  · exact .inl rfl
  · exact .inr ⟨h, rfl⟩

/-- A mark that the reader skips is an operator on nothing for the walk. -/
theorem Scan.passes_lazy (h : scan.last = none) (rest : List Char) :
    ∃ t, scan.At (skipLazy rest) t ∧ Passes scan rest scan t := by
  unfold skipLazy
  split
  · rename_i behind
    have hq : scan.quantify false = .ok scan := by
      unfold Scan.quantify
      rw [h]
    exact ⟨_, .inr ⟨h, rfl⟩, passes_operator (.option behind) hq⟩
  · exact ⟨rest, .inl rfl, .refl _ _⟩

/-! ## The walk beside the reader -/

/-- From here the walk finds a risk, or it comes to where the reader stands behind a token. -/
def Scan.Goes (scan : Scan) (t : List Char) (st' : State) (s' : List Char) : Prop :=
  Refuses scan t ∨ ∃ next t', Passes scan t next t' ∧ next.Follows st' ∧ next.At s' t'

theorem Scan.goes {next : Scan} {st' : State} {s' : List Char} (h : Passes scan t next s')
    (hnext : next.Follows st') : scan.Goes t st' s' := .inr ⟨next, s', h, hnext, .inl rfl⟩

theorem operator_of_readsBounds {min : Nat} {max : Option Nat}
    (h : ReadsBounds false s min max rest) :
    ∃ repeating, Operator s repeating rest ∧ (repeating = true ↔ Iterates max) := by
  cases h with
  | option =>
    refine ⟨false, .option _, ⟨nofun, fun hmax => ?_⟩⟩
    exact absurd (hmax 1 rfl) (Nat.lt_irrefl 1)
  | star => exact ⟨true, .star _, iff_of_true rfl iterates_none⟩
  | plus => exact ⟨true, .plus _, iff_of_true rfl iterates_none⟩
  | counts h =>
    obtain ⟨repeating, hbraces, hiterates⟩ := readCounts_eq_some h
    exact ⟨repeating, .braces hbraces, hiterates⟩

/-- **An operator is a risk or is passed.** -/
theorem goes_operator {min : Nat} {max : Option Nat} {p : Pattern} {more : List Pattern}
    (h : ReadsBounds false s min max rest) (hf : scan.Follows st) (hat : scan.At s t)
    (hparts : st.parts = p :: more) (hp : p.Repeatable) (hempty : p ≠ .empty)
    (hflags : ∀ set, p ≠ .flags set) :
    scan.Goes t (st.withParts (.repetition min max p :: more)) (skipLazy rest) := by
  obtain ⟨repeating, hop, hiterates⟩ := operator_of_readsBounds h
  have hstep : scan.Goes s (st.withParts (.repetition min max p :: more)) (skipLazy rest) := by
    rcases hf.quantify hparts hp hempty hflags hiterates with ⟨risk, hq⟩ | ⟨next, hq, hlast, hnext⟩
    · exact .inl (finds_operator hop hq).refuses
    · exact .inr ⟨next, _, passes_operator hop hq, hnext, Scan.at_skipLazy hlast rest⟩
  obtain rfl | ⟨hlast, rfl⟩ := hat
  · exact hstep
  · cases hop with
    | star | braces => exact hstep
    | plus | option =>
      -- the walk has taken the operator for a mark
      obtain ⟨t', hat', hpasses⟩ := Scan.passes_lazy hlast rest
      exact .inr ⟨scan, t', hpasses, hf.overlooked hparts hp hempty hflags hlast, hat'⟩

/-- **The walk keeps step with the reader**: a token of a plain pattern is a risk or is passed. -/
theorem goes_of_reads {st' : State} {s' : List Char} (h : Reads st s st' s') (hplain : st'.Plain)
    (hf : scan.Follows st) (hat : scan.At s t) : scan.Goes t st' s' := by
  cases h with
  | @switch set rest behind h =>
    obtain rfl := hat.eq rfl
    rw [hf.verbose, skip_false] at h
    obtain ⟨_, _, _, ⟨⟩⟩ | ⟨more, rfl, hlook, ⟨_, _, ⟨⟩, _⟩ | ⟨_, ⟨⟩, hheader⟩⟩ :=
      readOpening_eq_some h
    have hset : set.Plain := (hplain.all.parts _ List.mem_cons_self).node
    exact Scan.goes (passes_switch hlook hheader) (hf.switch hset)
  | @opening kind names rest behind h =>
    obtain rfl := hat.eq rfl
    rw [hf.verbose, skip_false] at h
    have hopen := hf.openGroup kind (hplain.heads _ List.mem_cons_self) names
    obtain ⟨rfl, hhead, _⟩ | ⟨more, rfl, hlook, ⟨_, _, _, hheader⟩ | ⟨_, ⟨⟩, _⟩⟩ :=
      readOpening_eq_some h
    · exact Scan.goes (passes_open hhead) hopen
    · exact Scan.goes (passes_group hlook hheader) hopen
  | closing h =>
    obtain rfl := hat.eq rfl
    exact Scan.goes passes_close (hf.closeGroup h)
  | bar =>
    obtain rfl := hat.eq rfl
    exact Scan.goes passes_bar hf.branch
  | @brackets fuel q rest behind h =>
    obtain rfl := hat.eq rfl
    rw [hf.verbose] at h
    obtain ⟨negated, set, rfl⟩ := bracketed_of_readClass h
    have hclass : skipClass rest = s' :=
      skipClass_of_readClass h (hplain.all.parts _ List.mem_cons_self).node
    exact Scan.goes (hclass ▸ passes_class) (hf.atom rfl nofun)
  | operator h hparts hempty hflags =>
    rw [hf.verbose] at h
    exact goes_operator h hf hat hparts (hplain.all.parts _ List.mem_cons_self).node hempty hflags
  | @primitive _ _ prim h hfree =>
    obtain rfl := hat.eq (skipMark_eq (fun _ hs => hfree _ _ hs (by decide))
      fun _ hs => hfree _ _ hs (by decide))
    rw [hf.verbose] at h
    have hgroup : ∀ kind inner, prim.toPattern ≠ .group kind inner := by
      cases prim <;> exact nofun
    rcases passes_primitive h (hplain.all.parts _ List.mem_cons_self).node hfree with
      ⟨⟨b, rfl⟩, hpasses⟩ | ⟨a, hcovers, hpasses | hpasses⟩
    · exact Scan.goes hpasses (hf.forget b)
    · exact Scan.goes hpasses (hf.atom hcovers hgroup)
    · exact .inr ⟨_, _, hpasses, hf.marked hcovers hgroup, .inr ⟨rfl, rfl⟩⟩

/-- **The walk is led to the risk**: from wherever it follows the reader of a plain pattern with an
alarming shape, it finds one. -/
theorem refuses_of_readFrom {fuel : Nat} : ∀ {scan : Scan} {st : State} {s t : List Char}
    {p : Pattern}, readFrom fuel st s = some p → p.Plain → p.Alarming → scan.Follows st →
      scan.At s t → Refuses scan t := by
  induction fuel with
  | zero => exact fun h => nomatch h
  | succ fuel ih =>
    intro scan st s t p h hp halarm hf hat
    rcases readFrom_cases h with ⟨_, _, rfl⟩ | ⟨st', s', hreads, hread⟩
    · exact (not_alarming_of_free (State.free_inner hf.free.parts hf.free.branches) halarm).elim
    · rw [hf.verbose, skip_false] at hreads
      rcases goes_of_reads hreads (plain_of_readFrom hread hp) hf hat with
        hrefuses | ⟨next, t', hpasses, hnext, hat'⟩
      · exact hrefuses
      · exact (ih hread hp halarm hnext hat').of_passes hpasses

end Risk

/-! ## Refused patterns -/

theorem Pattern.read?_eq_some {source : String} {p : Pattern} (h : read? source = some p) :
    readFrom (source.toList.length + 1) ⟨[], [], [], false, []⟩ source.toList = some p := by
  obtain ⟨q, hread, hheight⟩ := Option.bind_eq_some_iff.mp h
  split at hheight
  · cases hheight
    exact hread
  · cases hheight

/-- **A plain pattern with an explosive shape in the open is refused**: it has a risk, and it gets
no machine that could run on it. -/
theorem GuardedPattern.ofText?_of_alarming {source : String} {p : Pattern}
    (h : Pattern.read? source = some p) (hplain : p.Plain) (halarm : p.Alarming) :
    ∃ risk, Risk.classify source.toList = some risk
      ∧ GuardedPattern.ofText? source = some ⟨source, none, some risk⟩ := by
  have hrefuses : Refuses Scan.start source.toList :=
    Risk.refuses_of_readFrom (read?_eq_some h) hplain halarm Scan.follows_start (.inl rfl)
  obtain ⟨risk, hclassify⟩ : ∃ risk, Risk.classify source.toList = some risk :=
    Option.isSome_iff_exists.mp (hrefuses source.toList.length (Nat.le_refl _))
  refine ⟨risk, hclassify, ?_⟩
  unfold GuardedPattern.ofText?
  rw [hclassify]

/-- One branch is the beginning of the other one. -/
theorem GuardedPattern.ofText?_twig :
    Pattern.read? "(a|ab)*" = some (.repetition 0 none (.group .capturing (.alternation
        [.literal 'a' false, .concat [.literal 'a' false, .literal 'b' false]])))
      ∧ ∃ risk, Risk.classify "(a|ab)*".toList = some risk
        ∧ GuardedPattern.ofText? "(a|ab)*" = some ⟨"(a|ab)*", none, some risk⟩ := by
  have hread : Pattern.read? "(a|ab)*" = some (.repetition 0 none (.group .capturing (.alternation
    [.literal 'a' false, .concat [.literal 'a' false, .literal 'b' false]]))) := rfl
  refine ⟨hread, GuardedPattern.ofText?_of_alarming hread (by simp [Repeatable]) ?_⟩
  refine ⟨0, none, _, .refl, iterates_none, .inr ⟨_, _, rfl, _, _, 'a', .refl _, ?_, ?_, by decide⟩⟩
  · refine ⟨⟨.initial, .initial, _, none, rfl, rfl, contains_single 'a'⟩, ?_⟩
    rintro kind negated ⟨⟩
  · refine ⟨⟨.initial, .initial, _, none, rfl, rfl,
      (Bool.or_eq_true _ _).mpr (.inl (contains_single 'a'))⟩, ?_⟩
    rintro kind negated (_ | _ | _ | _ | ⟨hp, hin⟩)
    rcases List.mem_pair.mp hp with rfl | rfl <;> cases hin

/-- **A pair of brackets hides the branches**: the group that is repeated holds the group with the
branches, and the walk takes it for safe. -/
theorem Risk.classify_overlooks_inner_branches :
    ∃ p m, Pattern.read? "((a|a))*" = some p ∧ p.Explosive
      ∧ Risk.classify "((a|a))*".toList = none
      ∧ GuardedPattern.ofText? "((a|a))*" = some ⟨"((a|a))*", some m, none⟩ := by
  refine ⟨.repetition 0 none (.group .capturing (.group .capturing (.alternation
    [.literal 'a' false, .literal 'a' false]))), _, rfl, ?_, by decide, rfl⟩
  have ha : (literal 'a' false).StartsWith 'a' :=
    ⟨.initial, .initial, _, none, rfl, rfl, contains_single 'a'⟩
  exact ⟨0, none, _, .refl, iterates_none, .inr
    ⟨_, .group .capturing (.group .capturing .refl), _, _, 'a', .refl _, ha, ha⟩⟩

end ValueSchema
