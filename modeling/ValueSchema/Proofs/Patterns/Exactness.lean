/-
On core patterns the walk is exact.

The walk over the text of a core pattern is led along its tree. What a part of the tree leaves in
the open group is read off the tree: the first atoms of the branches, and whether a quantified item
was passed. So when a group closes, the walk knows of it what makes it dangerous, and it stops at
the quantifier of the first dangerous group with the risk of that group; where no group is dangerous
it comes to the end of the text.
-/
import ValueSchema.Proofs.Patterns.Classes
import ValueSchema.Proofs.Patterns.Counts
import ValueSchema.Proofs.Patterns.Grammar

set_option autoImplicit false

namespace ValueSchema

open Core Risk

/-! ## The walk along a tree -/

namespace Risk

/-- The walk behind a quantifier that finds no risk. -/
def Scan.behind (s : Scan) : Option Quantifier → Scan
  | none => s
  | some _ => ⟨s.top.mark true, s.below, none⟩

/-- The walk behind the end of a branch. -/
def Scan.bar (s : Scan) : Scan := ⟨s.top.branch, s.below, none⟩

end Risk

mutual

/-- The walk behind an item. -/
def Core.Item.after (s : Scan) : Item → Scan
  | .letter x => s.atom x.atom
  | .group _ body => (body.after s.openGroup).closeGroup

/-- The walk behind a branch. -/
def Core.Branch.after (s : Scan) : Branch → Scan
  | .empty => s
  | .cons item quantifier rest => rest.after ((item.after s).behind quantifier)

/-- The walk behind an expression. -/
def Core.Expression.after (s : Scan) : Expression → Scan
  | .last b => b.after s
  | .or b rest => rest.after (b.after s).bar

end

/-! ## What a part leaves in the open group -/

namespace Core

/-- What a quantifier behind an item stands on. -/
def Item.target : Item → Target
  | .letter _ => .simple
  | .group _ body => .group body.quantified (anyOverlap body.atoms)

/-- The atom of a branch, if it has one. -/
def Branch.start : Branch → Option Atom
  | .empty => none
  | .cons item _ _ => some item.atom

theorem Branch.getD_start (b : Branch) : b.start.getD .empty = b.atom := by
  cases b with
  | empty => rfl
  | cons item quantifier rest => rfl

/-- A branch that has not started yet, in front of those that are complete. -/
theorem anyOverlap_reverse {starts : List (Option Atom)} {atoms : List Atom}
    (h : starts.reverse.map (fun s => s.getD .empty) = atoms) (quantified : Bool) :
    (Frame.mk quantified starts).ambiguous = anyOverlap atoms := by
  subst h
  unfold Frame.ambiguous
  rcases starts with _ | ⟨a, _ | ⟨b, rest⟩⟩
  · rfl
  · cases a <;> rfl
  · simp

/-- A group that closes leaves to its quantifier what the walk knows of its branches. -/
theorem closeGroup_eq {body : Expression} {s : Scan} {starts : List (Option Atom)}
    {target : Option Target}
    (h : body.after s.openGroup
      = ⟨⟨body.quantified, starts⟩, s.top.saw .wide :: s.below, target⟩)
    (hstarts : starts.reverse.map (fun a => a.getD .empty) = body.atoms) :
    (body.after s.openGroup).closeGroup
      = ⟨(s.top.saw .wide).mark body.quantified, s.below,
          some (.group body.quantified (anyOverlap body.atoms))⟩ := by
  rw [h, Scan.closeGroup]
  simp only [anyOverlap_reverse hstarts]

end Core

mutual

/-- An item starts the branch if nothing did before. -/
theorem Core.Item.after_eq (quantified : Bool) (start : Option Atom) (done : List (Option Atom))
    (below : List Frame) (target : Option Target) : ∀ item : Item,
    item.after ⟨⟨quantified, start :: done⟩, below, target⟩
      = ⟨⟨quantified || item.quantified, start.or (some item.atom) :: done⟩, below,
          some item.target⟩
  | .letter x => by
    rw [Item.quantified, Bool.or_false]
    cases start <;> rfl
  | .group capturing body => by
    obtain ⟨starts, target', hafter, hstarts⟩ := Core.Expression.after_eq false []
      ((Frame.mk quantified (start :: done)).saw .wide :: below) none body
    rw [List.append_nil, Bool.false_or] at hafter
    have hclose := closeGroup_eq (s := ⟨⟨quantified, start :: done⟩, below, target⟩) hafter hstarts
    rw [Item.after, hclose]
    cases start <;> rfl

/-- A branch shows its first atom, and it marks the group if it holds a quantified item. -/
theorem Core.Branch.after_eq (quantified : Bool) (start : Option Atom) (done : List (Option Atom))
    (below : List Frame) (target : Option Target) : ∀ b : Branch,
    ∃ target', b.after ⟨⟨quantified, start :: done⟩, below, target⟩
      = ⟨⟨quantified || b.quantified, start.or b.start :: done⟩, below, target'⟩
  | .empty => by
    rw [Branch.quantified, Branch.start, Bool.or_false, Option.or_none]
    exact ⟨target, rfl⟩
  | .cons item quantifier rest => by
    have hitem := Core.Item.after_eq quantified start done below target item
    have hbehind : ∃ target',
        (item.after ⟨⟨quantified, start :: done⟩, below, target⟩).behind quantifier
          = ⟨⟨quantified || (quantifier.isSome || item.quantified),
              start.or (some item.atom) :: done⟩, below, target'⟩ := by
      rw [hitem]
      cases quantifier with
      | none => exact ⟨_, rfl⟩
      | some q =>
        rw [Option.isSome_some, Bool.true_or, Bool.or_true]
        exact ⟨none, by rw [Scan.behind, Frame.mark, Bool.or_true]⟩
    obtain ⟨target', hbehind⟩ := hbehind
    obtain ⟨last, hrest⟩ := Core.Branch.after_eq
      (quantified || (quantifier.isSome || item.quantified)) (start.or (some item.atom)) done below
      target' rest
    refine ⟨last, ?_⟩
    have hstart : (start.or (some item.atom)).or rest.start = start.or (some item.atom) := by
      cases start <;> rfl
    rw [Branch.after, hbehind, hrest, hstart, Bool.or_assoc]
    rfl

/-- An expression shows the first atoms of its branches. -/
theorem Core.Expression.after_eq (quantified : Bool) (done : List (Option Atom))
    (below : List Frame) (target : Option Target) : ∀ e : Expression,
    ∃ starts target', e.after ⟨⟨quantified, none :: done⟩, below, target⟩
        = ⟨⟨quantified || e.quantified, starts ++ done⟩, below, target'⟩
      ∧ starts.reverse.map (fun s => s.getD .empty) = e.atoms
  | .last b => by
    obtain ⟨last, hb⟩ := Core.Branch.after_eq quantified none done below target b
    refine ⟨[b.start], last, hb, ?_⟩
    rw [Expression.atoms, ← b.getD_start]
    rfl
  | .or b rest => by
    obtain ⟨last, hb⟩ := Core.Branch.after_eq quantified none done below target b
    obtain ⟨starts, last', hrest, hstarts⟩ :=
      Core.Expression.after_eq (quantified || b.quantified) (b.start :: done) below none rest
    refine ⟨starts ++ [b.start], last', ?_, ?_⟩
    · have hbar : (b.after ⟨⟨quantified, none :: done⟩, below, target⟩).bar
          = ⟨⟨quantified || b.quantified, none :: b.start :: done⟩, below, none⟩ := by
        rw [hb]
        rfl
      rw [Expression.after, hbar, hrest, Bool.or_assoc, List.append_assoc]
      rfl
    · rw [List.reverse_append, List.map_append, hstarts, Expression.atoms, ← b.getD_start]
      rfl

end

/-! ## Letters -/

namespace Core

theorem escapeOf_perlLetter (kind : PerlClass) (negated : Bool) (rest : List Char) :
    escapeOf (perlLetter kind negated) rest = .atom (.ofPerl kind negated) := by
  cases kind <;> cases negated <;> rfl

theorem escapeOf_escaped {c : Char} (h : c.isAlphanum = false) (rest : List Char) :
    escapeOf c rest = .atom (.char c) := by
  have hne : ∀ d : Char, d.isAlphanum = true → c ≠ d := by
    rintro d hd rfl
    exact absurd hd (Bool.eq_false_iff.mp h)
  have hdigit : (decide ('1' ≤ c) && decide (c ≤ '9')) = false := by
    rw [Bool.eq_false_iff]
    intro hdigit
    have hrange : '1' ≤ c ∧ c ≤ '9' := by simpa using hdigit
    have hzero : '0' ≤ c := Char.le_trans (by decide) hrange.1
    have hisDigit : c.isDigit = true := by
      simp only [Char.isDigit, Bool.and_eq_true, decide_eq_true_eq]
      exact ⟨hzero, hrange.2⟩
    rw [Char.isAlphanum, hisDigit, Bool.or_true] at h
    cases h
  have hk : c ≠ 'k' := hne 'k' (by decide)
  unfold escapeOf
  split
  all_goals first
    | exact absurd rfl (hne _ (by decide))
    | simp [hk, hdigit, h]

/-- A plain class ends at its closing bracket. -/
theorem skipClass_members (negated : Bool) (members : Members) (rest : List Char) :
    skipClass ((if negated then ['^'] else []) ++ (members.chars ++ ']' :: rest)) = rest := by
  obtain ⟨chars, hnonempty, hplain⟩ := members
  have hskip : ∀ l : List Char, (∀ c ∈ l, c ∉ ['[', ']', '^', '\\']) →
      skipBrackets 1 (l ++ ']' :: rest) = rest := by
    intro l hl
    induction l with
    | nil => rfl
    | cons c l ih =>
      rw [List.forall_mem_cons] at hl
      have hne : ∀ d ∈ ['[', ']', '^', '\\'], c ≠ d := by
        rintro d hd rfl
        exact hl.1 hd
      rw [List.cons_append, Pattern.skipBrackets_char (hne _ (by decide)) (hne _ (by decide))
        (hne _ (by decide)), ih hl.2]
  obtain ⟨c, l, rfl⟩ := List.exists_cons_of_ne_nil hnonempty
  have hc := hplain c List.mem_cons_self
  have hcaret : c ≠ '^' := by
    rintro rfl
    exact hc (by decide)
  have hclose : c ≠ ']' := by
    rintro rfl
    exact hc (by decide)
  have hbehind : (Pattern.behindCaret ((if negated then ['^'] else [])
      ++ (c :: l ++ ']' :: rest))).2 = c :: l ++ ']' :: rest := by
    cases negated with
    | false => exact congrArg Prod.snd (Pattern.behindCaret_of_ne (by simp [hcaret]))
    | true => rfl
  have hbracket : Pattern.behindBracket (c :: l ++ ']' :: rest) = c :: l ++ ']' :: rest := by
    unfold Pattern.behindBracket
    split
    · rename_i heq
      exact absurd (List.cons.inj heq).1 hclose
    · rfl
  rw [Pattern.skipClass_eq, hbehind, hbracket]
  exact hskip _ hplain

theorem Letter.passes (x : Letter) (s : Scan) (rest : List Char) :
    Passes s (x.text ++ rest) (s.atom x.atom) rest := by
  cases x with
  | literal c h => exact passes_char (.inl h)
  | dot => exact passes_dot
  | perl kind negated => exact passes_escape_atom (escapeOf_perlLetter kind negated rest)
  | escaped c h => exact passes_escape_atom (escapeOf_escaped h rest)
  | brackets negated members =>
    have hclass := skipClass_members negated members rest
    have hpasses : Passes s ('[' :: ((if negated then ['^'] else [])
        ++ (members.chars ++ ']' :: rest))) _ _ := passes_class
    rw [hclass] at hpasses
    have htext : (Letter.brackets negated members).text ++ rest
        = '[' :: ((if negated then ['^'] else []) ++ (members.chars ++ ']' :: rest)) := by
      simp [Letter.text]
    rw [htext]
    exact hpasses

/-! ## Quantifiers -/

/-- The digits of a count are a count for the walk. -/
theorem isCount_countText (n : UInt64) : Pattern.IsCount (countText n) n.toNat := by
  have hdigits : ∀ c ∈ countText n, c.isDigit = true := by
    intro c hc
    rw [countText, Nat.toList_repr] at hc
    exact Nat.isDigit_of_mem_toDigits (by decide) (Nat.le_refl 10) hc
  have hne : countText n ≠ [] := by
    rw [countText, Nat.toList_repr]
    exact Nat.toDigits_ne_nil
  have hvalue : digitsValue (countText n) = n.toNat := by
    have hof := Nat.ofDigitChars_ten_toDigits (n := n.toNat)
    rw [Nat.ofDigitChars_eq_foldl] at hof
    rw [countText, Nat.toList_repr, digitsValue]
    simp only [Nat.mul_comm _ 10]
    exact hof
  have htrim : Text.trim (countText n) = countText n := by
    have hblanks : Text.trim ([] ++ (countText n ++ [])) = countText n :=
      trim_of_blanks nofun (fun c hc => isBlank_of_isDigit (hdigits c hc)) hne nofun
    rw [List.nil_append, List.append_nil] at hblanks
    exact hblanks
  have hlimit : digitsValue (countText n) < countLimit := by
    rw [hvalue]
    exact n.toNat_lt
  refine ⟨?_, ?_, ?_, ?_⟩
  · rw [htrim, ← hvalue]
    exact count?_of_digits hne hdigits hlimit
  · rw [htrim]
    exact hne
  · rintro c hc rfl
    exact absurd (hdigits _ hc) (by decide)
  · rintro c hc rfl
    exact absurd (hdigits _ hc) (by decide)

/-- A quantity is an operator for the walk, which can tell whether it repeats. -/
theorem Quantity.operator (q : Quantity) (rest : List Char) :
    Operator (q.text ++ rest) q.repeats rest := by
  cases q with
  | star => exact .star rest
  | plus => exact .plus rest
  | option => exact .option rest
  | exactly n =>
    rw [Quantity.text, List.cons_append, List.append_assoc]
    exact .braces (Pattern.braces?_exact (isCount_countText n))
  | atLeast n =>
    rw [Quantity.text, List.cons_append, List.append_assoc]
    exact .braces (Pattern.braces?_atLeast (isCount_countText n))
  | between n m =>
    rw [Quantity.text, List.cons_append, List.append_assoc, List.cons_append, List.append_assoc]
    exact .braces (Pattern.braces?_between (isCount_countText n) (isCount_countText m))

/-- No mark of a quantifier stands in front of a text. -/
structure Unmarked (text : List Char) : Prop where
  option : ∀ more, text ≠ '?' :: more
  plus : ∀ more, text ≠ '+' :: more

theorem unmarked_cons {c : Char} (hoption : c ≠ '?') (hplus : c ≠ '+') (rest : List Char) :
    Unmarked (c :: rest) where
  option _ h := hoption (List.cons.inj h).1
  plus _ h := hplus (List.cons.inj h).1

theorem Item.unmarked (item : Item) (rest : List Char) : Unmarked (item.text ++ rest) := by
  cases item with
  | group capturing body => exact unmarked_cons (by decide) (by decide) _
  | letter x =>
    cases x with
    | literal c h =>
      refine unmarked_cons ?_ ?_ _
      · rintro rfl
        exact h (by decide)
      · rintro rfl
        exact h (by decide)
    | dot | perl _ _ | escaped _ _ | brackets _ _ => exact unmarked_cons (by decide) (by decide) _

theorem Branch.unmarked (b : Branch) {rest : List Char} (h : Unmarked rest) :
    Unmarked (b.text ++ rest) := by
  cases b with
  | empty => exact h
  | cons item quantifier more =>
    rw [Branch.text, List.append_assoc]
    exact item.unmarked _

theorem Expression.unmarked (e : Expression) {rest : List Char} (h : Unmarked rest) :
    Unmarked (e.text ++ rest) := by
  cases e with
  | last b => exact b.unmarked h
  | or b more =>
    rw [Expression.text, List.append_assoc]
    exact b.unmarked (unmarked_cons (by decide) (by decide) _)

/-- Behind a quantifier the walk comes to what is behind its mark. -/
theorem Quantifier.skipMark_eq (q : Quantifier) {rest : List Char} (h : Unmarked rest) :
    skipMark ((if q.lazy then ['?'] else []) ++ rest) = rest := by
  cases q.lazy with
  | true => rfl
  | false => exact Risk.skipMark_eq h.option h.plus

theorem Quantifier.passes (q : Quantifier) {s s' : Scan} {rest : List Char} (h : Unmarked rest)
    (hq : s.quantify q.quantity.repeats = .ok s') : Passes s (q.text ++ rest) s' rest := by
  have hpasses := passes_operator (q.quantity.operator ((if q.lazy then ['?'] else []) ++ rest)) hq
  rw [q.skipMark_eq h, ← List.append_assoc] at hpasses
  exact hpasses

theorem Quantifier.finds (q : Quantifier) {s : Scan} {risk : PatternRisk} (rest : List Char)
    (hq : s.quantify q.quantity.repeats = .error risk) : Finds s (q.text ++ rest) risk := by
  have hfinds := finds_operator (q.quantity.operator ((if q.lazy then ['?'] else []) ++ rest)) hq
  rw [← List.append_assoc] at hfinds
  exact hfinds

/-! ## The first dangerous group -/

/-- The risk of the first dangerous group. -/
def firstRisk (groups : List Group) : Option PatternRisk :=
  (groups.find? fun g => g.Dangerous).map Group.risk

theorem firstRisk_append (before behind : List Group) :
    firstRisk (before ++ behind) = (firstRisk before).or (firstRisk behind) := by
  rw [firstRisk, List.find?_append, Option.map_or]
  rfl

theorem firstRisk_single (g : Group) :
    firstRisk [g] = if g.Dangerous then some g.risk else none := by
  rw [firstRisk, List.find?_singleton]
  by_cases h : g.Dangerous
  · rw [decide_eq_true h, if_pos h, if_pos rfl, Option.map_some]
  · rw [decide_eq_false h, if_neg h, if_neg Bool.false_ne_true, Option.map_none]

theorem dangerous_iff {body : Expression} {q : Quantifier} :
    (Group.mk body (some q)).Dangerous
      ↔ q.quantity.repeats = true
        ∧ (body.quantified = true ∨ anyOverlap body.atoms = true) := by
  have hrepeated : (Group.mk body (some q)).Repeated ↔ q.quantity.repeats = true := by
    simp [Group.Repeated]
  rw [anyOverlap_iff, ← hrepeated]
  rfl

/-- The walk along a part of the text: it stops at the first dangerous group there, or it comes
through. -/
def Reads (groups : List Group) (s : Scan) (text : List Char) (s' : Scan) (text' : List Char) :
    Prop :=
  match firstRisk groups with
  | none => Passes s text s' text'
  | some risk => Finds s text risk

variable {s s' s'' : Scan} {text text' text'' rest : List Char} {groups groups' : List Group}

theorem Reads.of_passes (h : Passes s text s' text') : Reads [] s text s' text' := h

theorem Reads.trans (h : Reads groups s text s' text') (h' : Reads groups' s' text' s'' text'') :
    Reads (groups ++ groups') s text s'' text'' := by
  unfold Reads at *
  rw [firstRisk_append]
  cases hfirst : firstRisk groups with
  | some risk =>
    rw [hfirst] at h
    exact h
  | none =>
    rw [hfirst] at h
    rw [Option.none_or]
    cases hsecond : firstRisk groups' with
    | some risk =>
      rw [hsecond] at h'
      exact h'.of_passes h
    | none =>
      rw [hsecond] at h'
      exact h.trans h'

theorem reads_letter_quantifier (quantifier : Option Quantifier) (h : Unmarked rest)
    (hlast : s.last = some .simple) :
    Passes s (quantifierText quantifier ++ rest) (s.behind quantifier) rest := by
  cases quantifier with
  | none => exact .refl s rest
  | some q =>
    refine q.passes h ?_
    rw [Scan.quantify, hlast]
    rfl

/-- At the quantifier of a group the walk knows whether the group is dangerous. -/
theorem reads_group_quantifier (body : Expression) (quantifier : Option Quantifier)
    (h : Unmarked rest)
    (hlast : s.last = some (.group body.quantified (anyOverlap body.atoms))) :
    Reads [⟨body, quantifier⟩] s (quantifierText quantifier ++ rest) (s.behind quantifier)
      rest := by
  unfold Reads
  rw [firstRisk_single]
  cases quantifier with
  | none =>
    have hsafe : ¬ (Group.mk body none).Dangerous := by
      rintro ⟨⟨q, hq, _⟩, _⟩
      cases hq
    rw [if_neg hsafe]
    exact .refl s rest
  | some q =>
    by_cases hdanger : (Group.mk body (some q)).Dangerous
    · rw [if_pos hdanger]
      refine q.finds rest ?_
      obtain ⟨hrepeats, hbody⟩ := dangerous_iff.mp hdanger
      rw [Scan.quantify, hlast, hrepeats, Group.risk]
      cases hquantified : body.quantified with
      | true => rfl
      | false =>
        rw [hquantified] at hbody
        rw [hbody.resolve_left Bool.false_ne_true]
        rfl
    · rw [if_neg hdanger]
      refine q.passes h ?_
      rw [dangerous_iff] at hdanger
      rw [Scan.quantify, hlast]
      cases hrepeats : q.quantity.repeats with
      | false => cases body.quantified <;> cases anyOverlap body.atoms <;> rfl
      | true =>
        have hcalm : body.quantified = false ∧ anyOverlap body.atoms = false := by
          simpa [hrepeats] using hdanger
        rw [hcalm.1, hcalm.2]
        rfl

/-! ## The walk along a tree finds the first dangerous group -/

/-- A group is opened in front of its body. -/
theorem passes_opening (capturing : Bool) (body : Expression) (s : Scan) (rest : List Char) :
    Passes s ('(' :: ((if capturing then [] else ['?', ':']) ++ (body.text ++ ')' :: rest)))
      s.openGroup (body.text ++ ')' :: rest) := by
  cases capturing with
  | true =>
    have hbody := body.unmarked (unmarked_cons (c := ')') (by decide) (by decide) rest)
    exact passes_open hbody.option
  | false => exact passes_group rfl rfl

end Core

mutual

theorem Core.Item.reads (quantifier : Option Quantifier) {rest : List Char} (h : Unmarked rest)
    (s : Scan) : ∀ item : Item,
    Reads (item.groups quantifier) s (item.text ++ (quantifierText quantifier ++ rest))
      ((item.after s).behind quantifier) rest
  | .letter x => by
    have hletter := x.passes s (quantifierText quantifier ++ rest)
    exact Reads.of_passes (hletter.trans (reads_letter_quantifier quantifier h rfl))
  | .group capturing body => by
    have hopen := passes_opening capturing body s (quantifierText quantifier ++ rest)
    have hclose : Passes (body.after s.openGroup) (')' :: (quantifierText quantifier ++ rest))
        (body.after s.openGroup).closeGroup (quantifierText quantifier ++ rest) := passes_close
    have hbody := Core.Expression.reads
      (unmarked_cons (c := ')') (by decide) (by decide) (quantifierText quantifier ++ rest))
      s.openGroup body
    have hlast : (body.after s.openGroup).closeGroup.last
        = some (.group body.quantified (anyOverlap body.atoms)) := by
      obtain ⟨starts, target, hafter, hstarts⟩ :=
        Core.Expression.after_eq false [] (s.top.saw .wide :: s.below) none body
      rw [List.append_nil, Bool.false_or] at hafter
      rw [closeGroup_eq (s := s) hafter hstarts]
    have hquantifier := reads_group_quantifier body quantifier h hlast
    have hall := ((Reads.of_passes hopen).trans hbody).trans
      ((Reads.of_passes hclose).trans hquantifier)
    rw [List.nil_append, List.nil_append] at hall
    have htext : (Item.group capturing body).text ++ (quantifierText quantifier ++ rest)
        = '(' :: ((if capturing then [] else ['?', ':'])
            ++ (body.text ++ ')' :: (quantifierText quantifier ++ rest))) := by
      rw [Item.text]
      simp
    rw [htext]
    exact hall

theorem Core.Branch.reads {rest : List Char} (h : Unmarked rest) (s : Scan) : ∀ b : Branch,
    Reads b.groups s (b.text ++ rest) (b.after s) rest
  | .empty => Reads.of_passes (.refl s rest)
  | .cons item quantifier more => by
    have hitem := Core.Item.reads quantifier (more.unmarked h) s item
    have hmore := Core.Branch.reads h ((item.after s).behind quantifier) more
    rw [Branch.text, List.append_assoc, List.append_assoc]
    exact hitem.trans hmore

theorem Core.Expression.reads {rest : List Char} (h : Unmarked rest) (s : Scan) : ∀ e : Expression,
    Reads e.groups s (e.text ++ rest) (e.after s) rest
  | .last b => Core.Branch.reads h s b
  | .or b more => by
    have hbar : Unmarked ('|' :: (more.text ++ rest)) := unmarked_cons (by decide) (by decide) _
    have hbranch := Core.Branch.reads hbar s b
    have hpasses : Passes (b.after s) ('|' :: (more.text ++ rest)) (b.after s).bar
        (more.text ++ rest) := passes_bar
    have hmore := Core.Expression.reads h (b.after s).bar more
    have hall := (hbranch.trans (Reads.of_passes hpasses)).trans hmore
    rw [List.append_nil] at hall
    rw [Expression.text, List.append_assoc, List.cons_append]
    exact hall

end

/-- **On core patterns the walk is exact.** It finds a risk exactly if some group is dangerous, and
the risk is that of the first dangerous group in the order in which groups close. -/
theorem Core.classify_exact (e : Expression) :
    ((classify e.text).isSome = true ↔ ∃ g ∈ e.groups, g.Dangerous)
      ∧ classify e.text = (e.groups.find? fun g => g.Dangerous).map Group.risk := by
  have hclassify : classify e.text = firstRisk e.groups := by
    have hend : Unmarked [] := ⟨nofun, nofun⟩
    have hreads := e.reads hend Scan.start
    rw [List.append_nil] at hreads
    unfold Reads at hreads
    cases hfirst : firstRisk e.groups with
    | some risk =>
      rw [hfirst] at hreads
      exact hreads _ (Nat.le_refl _)
    | none =>
      rw [hfirst] at hreads
      obtain ⟨fuel, _, hwalk⟩ := hreads _ (Nat.le_refl _)
      rw [classify, hwalk]
      cases fuel <;> rfl
  refine ⟨?_, hclassify⟩
  rw [hclassify, firstRisk, Option.isSome_map, List.find?_isSome]
  simp only [decide_eq_true_eq]

/-- The group of `(?:a|\\w{2,}?)+` is repeated and holds a quantified item. -/
example :
    let branch := Branch.cons (.letter (.perl .word false)) (some ⟨.atLeast 2, true⟩) .empty
    let letter := Branch.cons (.letter (.literal 'a' (by decide))) none .empty
    let body := Expression.or letter (.last branch)
    let e := Expression.last (.cons (.group false body) (some ⟨.plus, false⟩) .empty)
    e.text = "(?:a|\\w\x7b2,\x7d?)+".toList ∧ classify e.text = some .nestedQuantifier := by
  decide +kernel

end ValueSchema
