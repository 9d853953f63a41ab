/-
Shapes of patterns on which a backtracking engine runs on.

A repetition that can go around more than once takes exponentially many ways through one text if
what it repeats holds another such repetition, or an alternation two of whose branches can start
with the same character. What a branch can start with is read off its machine.

The walk over the text of a pattern sees less than its tree shows. The shapes that it is sure to see
are those of plain patterns: no flag changes how the text is read, no operator stands on an operator
or on an assertion, and brackets inside brackets are written so that they balance.
-/
import ValueSchema.Pattern.Guarded

set_option autoImplicit false

namespace ValueSchema

/-! ## First characters -/

namespace Machine

/-- A match can start with a character, behind the one that is given. -/
def starts (before : Option Char) (c : Char) : Machine → Bool
  | empty => false
  | look _ => false
  | .class _ set => set.contains c
  | either a b => a.starts before c || b.starts before c
  | seq a b => a.starts before c || (a.nullable before (some c) && b.starts before c)
  | star a => a.starts before c

/-- Some class carries a mark. -/
def marked : Machine → Bool
  | empty => false
  | look _ => false
  | .class m _ => m
  | either a b => a.marked || b.marked
  | seq a b => a.marked || b.marked
  | star a => a.marked

theorem final_of_not_marked {m : Machine} (h : m.marked = false) (before after : Option Char) :
    m.final before after = false := by
  induction m with
  | empty | look _ => rfl
  | «class» m set => exact h
  | either a b iha ihb | seq a b iha ihb =>
    obtain ⟨ha, hb⟩ := Bool.or_eq_false_iff.mp h
    simp only [final, iha ha, ihb hb, Bool.false_and, Bool.or_false]
  | star a ih => exact ih h

/-- **A character starts a match if reading it leaves a mark** on a machine that had none. -/
theorem marked_step {m : Machine} (h : m.marked = false) (before : Option Char) (c : Char)
    (enter : Bool) : (m.step before c enter).marked = (enter && m.starts before c) := by
  induction m generalizing enter with
  | empty | look _ => exact (Bool.and_false enter).symm
  | «class» m set => rfl
  | either a b iha ihb =>
    obtain ⟨ha, hb⟩ := Bool.or_eq_false_iff.mp h
    simp only [step, marked, starts, iha ha, ihb hb, Bool.and_or_distrib_left]
  | seq a b iha ihb =>
    obtain ⟨ha, hb⟩ := Bool.or_eq_false_iff.mp h
    simp only [step, marked, starts, iha ha, ihb hb, final_of_not_marked ha, Bool.or_false,
      Bool.and_or_distrib_left, Bool.and_assoc]
  | star a ih =>
    have ha : a.marked = false := h
    simp only [step, marked, starts, ih ha, final_of_not_marked ha, Bool.or_false]

end Machine

/-- What the walk takes a one-letter class for. -/
def Risk.Atom.ofPerl (kind : PerlClass) (negated : Bool) : Risk.Atom :=
  match kind, negated with
  | .digit, false => .digit
  | .digit, true => .notDigit
  | .space, false => .space
  | .space, true => .notSpace
  | .word, false => .word
  | .word, true => .notWord

namespace Pattern

/-- A match of the pattern can start with a character, under some flags by which letters keep their
case. -/
def StartsWith (p : Pattern) (c : Char) : Prop :=
  ∃ (m after : Mode) (machine : Machine) (before : Option Char),
    m.caseInsensitive = false ∧ machine? m p = some (machine, after)
      ∧ machine.starts before c = true

/-! ## Parts -/

/-- A pattern that stands in another one. -/
inductive Within (q : Pattern) : Pattern → Prop
  | refl : Within q q
  | repetition {inner : Pattern} (min : Nat) (max : Option Nat) (h : Within q inner) :
    Within q (.repetition min max inner)
  | group {inner : Pattern} (kind : GroupKind) (h : Within q inner) : Within q (.group kind inner)
  | alternation {b : Pattern} {branches : List Pattern} (hb : b ∈ branches) (h : Within q b) :
    Within q (.alternation branches)
  | concat {p : Pattern} {parts : List Pattern} (hp : p ∈ parts) (h : Within q p) :
    Within q (.concat parts)

theorem Within.trans {p q r : Pattern} (hpq : p.Within q) (hqr : q.Within r) : p.Within r := by
  induction hqr with
  | refl => exact hpq
  | repetition min max _ ih => exact .repetition min max ih
  | group kind _ ih => exact .group kind ih
  | alternation hb _ ih => exact .alternation hb ih
  | concat hp _ ih => exact .concat hp ih

/-! ## Shapes -/

/-- A repetition with this bound can go around more than once. -/
def Iterates (max : Option Nat) : Prop := ∀ n ∈ max, 1 < n

/-- The pattern holds a repetition that can go around more than once. -/
def Repeats (p : Pattern) : Prop :=
  ∃ min max inner, (repetition min max inner).Within p ∧ Iterates max

/-- Some two branches can start with the same character. -/
def Ambiguous (branches : List Pattern) : Prop :=
  ∃ b b' c, [b, b'].Sublist branches ∧ b.StartsWith c ∧ b'.StartsWith c

/-- A repetition that can go around more than once holds another one, or an alternation two of whose
branches can start with the same character. -/
def Explosive (p : Pattern) : Prop :=
  ∃ min max body, (repetition min max body).Within p ∧ Iterates max
    ∧ (body.Repeats ∨ ∃ branches, (alternation branches).Within body ∧ Ambiguous branches)

/-! ## Shapes that are seen -/

/-- The walk takes a character for a member of every one-letter class in the pattern that holds
it. -/
def Held (p : Pattern) (c : Char) : Prop :=
  ∀ {kind : PerlClass} {negated : Bool}, (perl kind negated).Within p →
    ∀ {m : Mode} {s : Text.CodeSet}, m.perl? kind negated = some s → s.contains c = true →
      (Risk.Atom.ofPerl kind negated).contains c = true

/-- The pattern can start with a character that the walk knows. -/
structure Shows (p : Pattern) (c : Char) : Prop where
  starts : p.StartsWith c
  held : p.Held c

/-- Some two branches show that they can start with the same character, one that is not both a
letter and a blank. -/
def Overlapping (branches : List Pattern) : Prop :=
  ∃ b b' c, [b, b'].Sublist branches ∧ b.Shows c ∧ b'.Shows c
    ∧ (Risk.isWord c = true → Text.isBlank c = false)

/-- A repetition in the open: it can go around more than once, and what it repeats holds another
one or is a group of overlapping branches. -/
def Alarms (max : Option Nat) (body : Pattern) : Prop :=
  Iterates max ∧ (body.Repeats ∨ ∃ kind branches, body = .group kind (.alternation branches)
    ∧ Overlapping branches)

/-- An explosive shape in the open: the branches are those of the repeated group itself. -/
def Alarming (p : Pattern) : Prop :=
  ∃ min max body, (repetition min max body).Within p ∧ Alarms max body

theorem explosive_of_alarming {p : Pattern} (h : p.Alarming) : p.Explosive := by
  obtain ⟨min, max, body, hin, hiterates, hbody⟩ := h
  refine ⟨min, max, body, hin, hiterates, hbody.imp_right ?_⟩
  rintro ⟨kind, branches, rfl, b, b', c, hsub, hb, hb', _⟩
  exact ⟨branches, .group kind .refl, b, b', c, hsub, hb.starts, hb'.starts⟩

end Pattern

/-! ## Plain patterns -/

/-- The characters that the walk reads as more than themselves. -/
def Risk.operators : List Char := "\\.+*?()|[]\x7b^$".toList

/-- What holds of a few characters is tested on each of them. -/
theorem Risk.forall_mem_of_all {l : List Char} {P : Char → Prop} [DecidablePred P]
    (h : (l.all fun c => decide (P c)) = true) : ∀ c ∈ l, P c :=
  fun c hc => of_decide_eq_true (List.all_eq_true.mp h c hc)

/-- The name of a class is made of characters that stand for themselves. -/
def ClassName.Plain : ClassName → Prop
  | .bare name => ∀ c ∈ name.toList, c ∉ Risk.operators
  | .valued property value => ∀ c ∈ property.toList ++ value.toList, c ∉ Risk.operators

/-- Flags that neither disregard the case of letters nor skip blanks. -/
def PatternFlags.Plain (set : PatternFlags) : Prop :=
  (.caseInsensitive, true) ∉ set ∧ (.ignoreWhitespace, true) ∉ set

mutual

/-- A part of a class whose brackets balance: no range ends at an opening bracket, and a bracket
inside brackets holds no closing one. -/
def ClassItem.Plain (nested : Bool) : ClassItem → Prop
  | .literal c _ => nested = true → c ≠ ']'
  | .range _ last _ => last ≠ '['
  | .named name _ => name.Plain
  | .bracketed _ set => set.Plain true
  | _ => True

def ClassSet.Plain (nested : Bool) : ClassSet → Prop
  | .items l => ClassItem.AllPlain nested l
  | .operation _ left right => left.Plain nested ∧ right.Plain nested

def ClassItem.AllPlain (nested : Bool) : List ClassItem → Prop
  | [] => True
  | i :: rest => i.Plain nested ∧ ClassItem.AllPlain nested rest

end

namespace Pattern

/-- An operator may apply to the pattern, as far as the walk can tell. -/
def Repeatable : Pattern → Prop
  | .repetition _ _ _ => False
  | .assertion _ => False
  | _ => True

/-- The node is written in a way that the walk knows. -/
def PlainNode : Pattern → Prop
  | .flags set => set.Plain
  | .group (.plain set) _ => set.Plain
  | .assertion (.word b) => b = .edge ∨ b = .inside
  | .named name _ => name.Plain
  | .bracketed _ set => set.Plain false
  | .repetition _ _ inner => inner.Repeatable
  | _ => True

/-- All nodes are written in a way that the walk knows. -/
def Plain (p : Pattern) : Prop := ∀ q : Pattern, q.Within p → q.PlainNode

theorem Plain.of_within {p q : Pattern} (h : p.Plain) (hq : q.Within p) : q.Plain :=
  fun r hr => h r (hr.trans hq)

@[simp] theorem plain_literal (c : Char) (asByte : Bool) : (literal c asByte).Plain := by
  rintro q ⟨⟩
  trivial

@[simp] theorem plain_repetition {min : Nat} {max : Option Nat} {p : Pattern} :
    (repetition min max p).Plain ↔ p.Repeatable ∧ p.Plain := by
  refine ⟨fun h => ⟨h _ .refl, h.of_within (.repetition min max .refl)⟩, ?_⟩
  rintro ⟨hrepeatable, hp⟩ q (_ | ⟨_, _, hq⟩)
  · exact hrepeatable
  · exact hp q hq

@[simp] theorem plain_capturing {p : Pattern} : (group .capturing p).Plain ↔ p.Plain := by
  refine ⟨fun h => h.of_within (.group .capturing .refl), ?_⟩
  rintro hp q (_ | _ | ⟨_, hq⟩)
  · trivial
  · exact hp q hq

@[simp] theorem plain_alternation {branches : List Pattern} :
    (alternation branches).Plain ↔ ∀ b ∈ branches, b.Plain := by
  refine ⟨fun h b hb => h.of_within (.alternation hb .refl), ?_⟩
  rintro hbranches q (_ | _ | _ | ⟨hb, hq⟩)
  · trivial
  · exact hbranches _ hb q hq

@[simp] theorem plain_concat {parts : List Pattern} :
    (concat parts).Plain ↔ ∀ p ∈ parts, p.Plain := by
  refine ⟨fun h p hp => h.of_within (.concat hp .refl), ?_⟩
  rintro hparts q (_ | _ | _ | _ | ⟨hp, hq⟩)
  · trivial
  · exact hparts _ hp q hq

end Pattern

end ValueSchema
