/-
The walk over the text of a pattern, token by token.

The walk passes from one place of the text to another one where it finds no risk on the way. Passes
can be put together, so what the reader takes for one token the walk may take for several, and a
place that is refused is refused from wherever the walk passes to it.
-/
import ValueSchema.Proofs.Patterns.Shapes

set_option autoImplicit false

namespace ValueSchema.Risk

/-! ## Passes -/

/-- The walk comes from one place to another one without a risk. -/
def Passes (s : Scan) (text : List Char) (s' : Scan) (text' : List Char) : Prop :=
  ∀ fuel : Nat, text.length ≤ fuel →
    ∃ fuel', text'.length ≤ fuel' ∧ walk fuel s text = walk fuel' s' text'

/-- From here on the walk finds a risk. -/
def Refuses (s : Scan) (text : List Char) : Prop :=
  ∀ fuel : Nat, text.length ≤ fuel → (walk fuel s text).isSome = true

/-- From here on the walk finds this risk. -/
def Finds (s : Scan) (text : List Char) (risk : PatternRisk) : Prop :=
  ∀ fuel : Nat, text.length ≤ fuel → walk fuel s text = some risk

variable {s s' s'' : Scan} {text text' text'' rest : List Char} {c : Char}

theorem Passes.refl (s : Scan) (text : List Char) : Passes s text s text :=
  fun fuel h => ⟨fuel, h, rfl⟩

theorem Passes.trans (h : Passes s text s' text') (h' : Passes s' text' s'' text'') :
    Passes s text s'' text'' := by
  intro fuel hfuel
  obtain ⟨fuel', hfuel', heq⟩ := h fuel hfuel
  obtain ⟨fuel'', hfuel'', heq'⟩ := h' fuel' hfuel'
  exact ⟨fuel'', hfuel'', heq.trans heq'⟩

theorem Refuses.of_passes (h' : Refuses s' text') (h : Passes s text s' text') :
    Refuses s text := by
  intro fuel hfuel
  obtain ⟨fuel', hfuel', heq⟩ := h fuel hfuel
  rw [heq]
  exact h' fuel' hfuel'

/-- A step of the walk consumes at least its first character. -/
theorem Passes.of_step (h : ∀ fuel, walk (fuel + 1) s (c :: rest) = walk fuel s' text')
    (hlen : text'.length ≤ rest.length) : Passes s (c :: rest) s' text' := by
  intro fuel hfuel
  obtain ⟨n, rfl⟩ : ∃ n, fuel = n + 1 := ⟨fuel - 1, by simp only [List.length_cons] at hfuel; omega⟩
  refine ⟨n, ?_, h n⟩
  simp only [List.length_cons] at hfuel
  omega

theorem Finds.of_passes {risk : PatternRisk} (h' : Finds s' text' risk)
    (h : Passes s text s' text') : Finds s text risk := by
  intro fuel hfuel
  obtain ⟨fuel', hfuel', heq⟩ := h fuel hfuel
  rw [heq]
  exact h' fuel' hfuel'

theorem Finds.of_step {risk : PatternRisk}
    (h : ∀ fuel, walk (fuel + 1) s (c :: rest) = some risk) : Finds s (c :: rest) risk := by
  intro fuel hfuel
  obtain ⟨n, rfl⟩ : ∃ n, fuel = n + 1 := ⟨fuel - 1, by simp only [List.length_cons] at hfuel; omega⟩
  exact h n

theorem Finds.refuses {risk : PatternRisk} (h : Finds s text risk) : Refuses s text := by
  intro fuel hfuel
  rw [h fuel hfuel]
  rfl

/-! ## Lengths -/

theorem length_skipMark_le (text : List Char) : (skipMark text).length ≤ text.length := by
  unfold skipMark
  split <;> simp

theorem length_afterBrace_le (text : List Char) : (afterBrace text).length ≤ text.length := by
  unfold afterBrace
  rw [List.length_drop]
  exact Nat.le_trans (Nat.sub_le _ _) (List.dropWhile_suffix _).length_le

theorem length_skipBrackets_le (depth : Nat) (text : List Char) :
    (skipBrackets depth text).length ≤ text.length := by
  fun_induction skipBrackets depth text <;> simp_all <;> omega

theorem length_skipClass_le (text : List Char) : (skipClass text).length ≤ text.length := by
  refine Nat.le_trans (length_skipBrackets_le _ _) ?_
  split
  · rename_i rest heq
    -- the text behind the caret starts with the bracket, or the text itself does
    split at heq
    · rw [heq, List.length_cons, List.length_cons]
      omega
    · rw [heq, List.length_cons]
      omega
  · split
    · exact Nat.le_succ _
    · exact Nat.le_refl _

/-- The text behind the head of a group. -/
def Header.behind : Header → List Char
  | .switch rest => rest
  | .group rest => rest

theorem length_skipFlags_le (text : List Char) :
    (skipFlags text).behind.length ≤ text.length := by
  induction text with
  | nil => exact Nat.le_refl _
  | cons c text ih =>
    unfold skipFlags
    split
    · exact Nat.le_succ text.length
    · split
      · exact Nat.le_succ text.length
      · exact Nat.le_succ_of_le ih

theorem length_skipHeader_le (text : List Char) :
    (skipHeader text).behind.length ≤ text.length := by
  have hname : ((text.dropWhile (· != '>')).drop 1).length ≤ text.length := by
    rw [List.length_drop]
    exact Nat.le_trans (Nat.sub_le _ _) (List.dropWhile_suffix _).length_le
  unfold skipHeader
  split
  · exact hname
  · exact hname
  · exact length_skipFlags_le _

theorem length_of_braces? {text : List Char} {repeating : Bool} {rest : List Char}
    (h : braces? text = some (repeating, rest)) : rest.length ≤ text.length := by
  unfold braces? at h
  split at h
  · cases h
  · rename_i c behind hbrace
    obtain ⟨_, _, hpair⟩ := Option.map_eq_some_iff.mp h
    cases hpair
    have hlen := (List.dropWhile_suffix (p := (· != '\x7d')) (l := text)).length_le
    rw [hbrace, List.length_cons] at hlen
    omega

/-! ## Characters that stand for themselves -/

theorem passes_char (hc : c ∉ operators ∨ c = ']') :
    Passes s (c :: rest) (s.atom (.char c)) rest := by
  refine .of_step (fun fuel => ?_) (Nat.le_refl _)
  conv => lhs; unfold walk
  split <;> first | rfl | exact absurd hc (by decide)

theorem Frame.saw_saw (f : Frame) (a b : Atom) : (f.saw a).saw b = f.saw a := by
  obtain ⟨quantified, starts⟩ := f
  rcases starts with _ | ⟨_ | x, rest⟩ <;> rfl

/-- A second atom changes nothing. -/
theorem Scan.atom_atom (s : Scan) (a b : Atom) : (s.atom a).atom b = s.atom a := by
  simp only [atom, Frame.saw_saw]

/-- Characters that stand for themselves pass behind an atom. -/
theorem passes_chars (a : Atom) {l : List Char} (hl : ∀ c ∈ l, c ∉ operators) :
    Passes (s.atom a) (l ++ rest) (s.atom a) rest := by
  induction l with
  | nil => exact .refl _ _
  | cons c l ih =>
    rw [List.forall_mem_cons] at hl
    have hchar : Passes (s.atom a) (c :: (l ++ rest)) ((s.atom a).atom (.char c)) (l ++ rest) :=
      passes_char (.inl hl.1)
    rw [Scan.atom_atom] at hchar
    exact hchar.trans (ih hl.2)

/-! ## Tokens -/

theorem passes_dot : Passes s ('.' :: rest) (s.atom .wide) rest :=
  .of_step (fun _ => rfl) (Nat.le_refl _)

theorem passes_caret : Passes s ('^' :: rest) s.forget rest :=
  .of_step (fun _ => rfl) (Nat.le_refl _)

theorem passes_dollar : Passes s ('$' :: rest) s.forget rest :=
  .of_step (fun _ => rfl) (Nat.le_refl _)

theorem passes_bar : Passes s ('|' :: rest) ⟨s.top.branch, s.below, none⟩ rest :=
  .of_step (fun _ => rfl) (Nat.le_refl _)

theorem passes_close : Passes s (')' :: rest) s.closeGroup rest :=
  .of_step (fun _ => rfl) (Nat.le_refl _)

theorem passes_class : Passes s ('[' :: rest) (s.atom .wide) (skipClass rest) :=
  .of_step (fun _ => rfl) (length_skipClass_le rest)

theorem passes_open (h : ∀ more, rest ≠ '?' :: more) : Passes s ('(' :: rest) s.openGroup rest := by
  refine .of_step (fun fuel => ?_) (Nat.le_refl _)
  simp only [walk]

/-- A group with a head: the head is skipped. -/
theorem passes_group (hlook : isLookaround rest = false) (h : skipHeader rest = .group text') :
    Passes s ('(' :: '?' :: rest) s.openGroup text' := by
  have hlen := length_skipHeader_le rest
  rw [h] at hlen
  refine .of_step (fun fuel => ?_) (Nat.le_succ_of_le hlen)
  show (if isLookaround rest = true then _ else _) = _
  rw [hlook, if_neg Bool.false_ne_true, h]

/-- A switch of flags leaves no trace. -/
theorem passes_switch (hlook : isLookaround rest = false) (h : skipHeader rest = .switch text') :
    Passes s ('(' :: '?' :: rest) s text' := by
  have hlen := length_skipHeader_le rest
  rw [h] at hlen
  refine .of_step (fun fuel => ?_) (Nat.le_succ_of_le hlen)
  show (if isLookaround rest = true then _ else _) = _
  rw [hlook, if_neg Bool.false_ne_true, h]

/-! ### Escapes -/

variable {a : Atom}

theorem passes_escape_atom (h : escapeOf c rest = .atom a) :
    Passes s ('\\' :: c :: rest) (s.atom a) rest := by
  refine .of_step (fun fuel => ?_) (Nat.le_succ _)
  simp only [walk, h]

theorem passes_escape_anchor (h : escapeOf c rest = .anchor) :
    Passes s ('\\' :: c :: rest) s.forget rest := by
  refine .of_step (fun fuel => ?_) (Nat.le_succ _)
  simp only [walk, h]

theorem passes_escape_named (h : escapeOf c rest = .named) :
    Passes s ('\\' :: c :: rest) (s.atom .wide)
      (if rest.head? == some '\x7b' then afterBrace rest else rest) := by
  refine .of_step (fun fuel => ?_) ?_
  · simp only [walk, h]
  · split
    · exact Nat.le_succ_of_le (length_afterBrace_le rest)
    · exact Nat.le_succ _

/-! ### Operators -/

/-- Where there is no mark there is none to skip. -/
theorem skipMark_eq {s : List Char} (hoption : ∀ rest, s ≠ '?' :: rest)
    (hplus : ∀ rest, s ≠ '+' :: rest) : skipMark s = s := by
  unfold skipMark
  split
  · exact (hoption _ rfl).elim
  · exact (hplus _ rfl).elim
  · rfl

/-- An operator stands in front of a text: whether it repeats, and what is behind it. -/
inductive Operator : List Char → Bool → List Char → Prop
  | star (rest : List Char) : Operator ('*' :: rest) true rest
  | plus (rest : List Char) : Operator ('+' :: rest) true rest
  | option (rest : List Char) : Operator ('?' :: rest) false rest
  | braces {repeating : Bool} {text rest : List Char} (h : braces? text = some (repeating, rest)) :
    Operator ('\x7b' :: text) repeating rest

variable {repeating : Bool}

theorem passes_operator (h : Operator text repeating rest) (hq : s.quantify repeating = .ok s') :
    Passes s text s' (skipMark rest) := by
  have hlen := length_skipMark_le rest
  cases h with
  | star | plus | option =>
    refine .of_step (fun fuel => ?_) hlen
    simp only [walk, hq]
  | braces hb =>
    refine .of_step (fun fuel => ?_) (Nat.le_trans hlen (length_of_braces? hb))
    simp only [walk, hb, hq]

theorem finds_operator {risk : PatternRisk} (h : Operator text repeating rest)
    (hq : s.quantify repeating = .error risk) : Finds s text risk := by
  cases h with
  | star | plus | option =>
    refine .of_step fun fuel => ?_
    simp only [walk, hq]
  | braces hb =>
    refine .of_step fun fuel => ?_
    simp only [walk, hb, hq]

/-- Braces that hold no counts stand for themselves. -/
theorem passes_brace (h : braces? rest = none) :
    Passes s ('\x7b' :: rest) (s.atom (.char '\x7b')) rest := by
  refine .of_step (fun fuel => ?_) (Nat.le_refl _)
  simp only [walk, h]

end ValueSchema.Risk
