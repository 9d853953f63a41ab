/-
Counted repetitions.

The reader and the walk read the counts between braces each in its own way: the reader goes on from
digit to digit, the walk cuts the braces out and parses what is between. Where the reader finds
counts, the walk finds them, too, and agrees whether they allow more than one pass.
-/
import ValueSchema.Proofs.Patterns.Tokens

set_option autoImplicit false

namespace ValueSchema

open Text (isBlank trim)

/-! ## Digits and blanks -/

theorem isBlank_of_isDigit {c : Char} (h : c.isDigit = true) : isBlank c = false := by
  have hrange : 48 ≤ c.toNat ∧ c.toNat ≤ 57 := by
    simpa [Char.isDigit, UInt32.le_iff_toNat_le] using h
  have hspace : c ≠ ' ' := by
    rintro rfl
    exact absurd hrange.1 (by decide)
  unfold isBlank
  rw [if_pos (by omega)]
  simp only [hspace, decide_false, Bool.false_or, Bool.and_eq_false_iff, decide_eq_false_iff_not]
  omega

theorem dropWhile_of_head {α : Type} {p : α → Bool} {l : List α} (h : ∀ x ∈ l.head?, p x = false) :
    l.dropWhile p = l := by
  cases l with
  | nil => rfl
  | cons x l => exact List.dropWhile_cons_of_neg (by simp [h x rfl])

/-- Blanks around a word without blanks are trimmed. -/
theorem trim_of_blanks {before word behind : List Char} (hbefore : ∀ c ∈ before, isBlank c = true)
    (hword : ∀ c ∈ word, isBlank c = false) (hne : word ≠ [])
    (hbehind : ∀ c ∈ behind, isBlank c = true) : trim (before ++ (word ++ behind)) = word := by
  obtain ⟨c, word', rfl⟩ := List.exists_cons_of_ne_nil hne
  have hfront :
      (before ++ ((c :: word') ++ behind)).dropWhile isBlank = (c :: word') ++ behind := by
    rw [List.dropWhile_append_of_pos hbefore]
    exact dropWhile_of_head fun x hx => hword x (by cases hx; exact List.mem_cons_self)
  have hback : (((c :: word') ++ behind).reverse.dropWhile isBlank) = (c :: word').reverse := by
    rw [List.reverse_append,
      List.dropWhile_append_of_pos fun x hx => hbehind x (List.mem_reverse.mp hx)]
    exact dropWhile_of_head fun x hx =>
      hword x (List.mem_reverse.mp (List.mem_of_mem_head? hx))
  unfold trim
  rw [hfront, hback, List.reverse_reverse]

/-- The number that digits stand for. -/
def digitsValue (ds : List Char) : Nat := ds.foldl (fun n c => n * 10 + (c.toNat - 48)) 0

theorem count?_of_digits {ds : List Char} (hne : ds ≠ []) (hds : ∀ c ∈ ds, c.isDigit = true)
    (hlimit : digitsValue ds < Risk.countLimit) : Risk.count? ds = some (digitsValue ds) := by
  obtain ⟨c, ds', rfl⟩ := List.exists_cons_of_ne_nil hne
  have hplus : c ≠ '+' := by
    rintro rfl
    exact absurd (hds _ List.mem_cons_self) (by decide)
  have hall : (c :: ds').all Char.isDigit = true := List.all_eq_true.mpr hds
  unfold Risk.count?
  split
  · rename_i heq
    cases heq
    exact absurd rfl hplus
  · dsimp only
    rw [hall]
    exact if_pos hlimit

namespace Pattern

theorem digits_eq (n : Nat) : ∀ acc s : List Char, ∃ l : List Char,
    (readDecimal.digits false n acc s).1 = acc.reverse ++ l
      ∧ s = l ++ (readDecimal.digits false n acc s).2 ∧ ∀ c ∈ l, c.isDigit = true := by
  induction n with
  | zero => exact fun acc s => ⟨[], (List.append_nil _).symm, rfl, nofun⟩
  | succ n ih =>
    intro acc s
    cases s with
    | nil => exact ⟨[], (List.append_nil _).symm, rfl, nofun⟩
    | cons c s =>
      unfold readDecimal.digits
      dsimp only
      split
      · rename_i hc
        obtain ⟨l, hds, hs, hl⟩ := ih (c :: acc) s
        refine ⟨c :: l, ?_, congrArg (c :: ·) hs, List.forall_mem_cons.mpr ⟨hc, hl⟩⟩
        rw [skip_false, hds, List.reverse_cons, List.append_assoc]
        rfl
      · exact ⟨[], (List.append_nil _).symm, rfl, nofun⟩

/-- A count is digits with blanks around them. -/
theorem readDecimal_eq_some {s rest : List Char} {n : Nat}
    (h : readDecimal false s = (some n, rest)) :
    ∃ before ds behind : List Char, s = before ++ (ds ++ behind) ++ rest
      ∧ (∀ c ∈ before, isBlank c = true) ∧ ds ≠ [] ∧ (∀ c ∈ ds, c.isDigit = true)
      ∧ (∀ c ∈ behind, isBlank c = true) ∧ n = digitsValue ds := by
  have hblanks : ∀ t : List Char, ∀ c ∈ t.takeWhile isBlank, isBlank c = true := fun _ =>
    List.all_eq_true.mp List.all_takeWhile
  obtain ⟨ds, hds, hs, hdigits⟩ :=
    digits_eq (s.dropWhile isBlank).length [] (s.dropWhile isBlank)
  unfold readDecimal at h
  dsimp only at h
  rw [hds] at h
  generalize (readDecimal.digits false (s.dropWhile isBlank).length [] (s.dropWhile isBlank)).2
    = t at h hs
  simp only [List.reverse_nil, List.nil_append, skip_false, Prod.mk.injEq] at h
  obtain ⟨hn, rfl⟩ := h
  cases ds with
  | nil => cases hn
  | cons c ds =>
    refine ⟨s.takeWhile isBlank, c :: ds, t.takeWhile isBlank, ?_, hblanks s,
      List.cons_ne_nil c ds, hdigits, hblanks t, (Option.some.inj hn).symm⟩
    rw [List.append_assoc, List.append_assoc, List.takeWhile_append_dropWhile, ← hs,
      List.takeWhile_append_dropWhile]

/-! ## Counts -/

/-- A text that the walk takes for a count. -/
structure IsCount (text : List Char) (n : Nat) : Prop where
  value : Risk.count? (trim text) = some n
  nonempty : trim text ≠ []
  comma : ∀ c ∈ text, c ≠ ','
  brace : ∀ c ∈ text, c ≠ '\x7d'

/-- A count that is read and fits is one for the walk. -/
theorem isCount_of_readDecimal {s rest : List Char} {n : Nat}
    (h : readDecimal false s = (some n, rest)) (hlimit : ¬ countLimit ≤ n) :
    ∃ text : List Char, s = text ++ rest ∧ IsCount text n := by
  obtain ⟨before, ds, behind, hs, hbefore, hne, hds, hbehind, rfl⟩ := readDecimal_eq_some h
  have htrim : trim (before ++ (ds ++ behind)) = ds :=
    trim_of_blanks hbefore (fun c hc => isBlank_of_isDigit (hds c hc)) hne hbehind
  have hwide : digitsValue ds < Risk.countLimit :=
    Nat.lt_of_lt_of_le (Nat.lt_of_not_le hlimit) (by decide)
  -- a mark of the braces is neither blank nor a digit
  have hfree : ∀ d : Char, isBlank d = false → d.isDigit = false →
      ∀ c ∈ before ++ (ds ++ behind), c ≠ d := by
    rintro d hblank hdigit c hc rfl
    simp only [List.mem_append] at hc
    rcases hc with hc | hc | hc
    · exact absurd (hbefore c hc) (Bool.eq_false_iff.mp hblank)
    · exact absurd (hds c hc) (Bool.eq_false_iff.mp hdigit)
    · exact absurd (hbehind c hc) (Bool.eq_false_iff.mp hblank)
  refine ⟨before ++ (ds ++ behind), hs, ?_, ?_, hfree ',' (by decide) (by decide),
    hfree '\x7d' (by decide) (by decide)⟩
  · rw [htrim]
    exact count?_of_digits hne hds hwide
  · rw [htrim]
    exact hne

/-- The text is cut at the first occurrence of a character. -/
theorem cut_at {l : List Char} {d : Char} (h : ∀ c ∈ l, c ≠ d) (rest : List Char) :
    (l ++ d :: rest).takeWhile (· != d) = l ∧ (l ++ d :: rest).dropWhile (· != d) = d :: rest := by
  have hne : ∀ c ∈ l, (c != d) = true := fun c hc => bne_iff_ne.mpr (h c hc)
  have hd : ¬ (d != d) = true := by simp
  rw [List.takeWhile_append_of_pos hne, List.dropWhile_append_of_pos hne]
  constructor
  · rw [List.takeWhile_cons_of_neg (p := (· != d)) hd, List.append_nil]
  · exact List.dropWhile_cons_of_neg (p := (· != d)) hd

theorem braces?_of_body {body rest : List Char} (h : ∀ c ∈ body, c ≠ '\x7d') :
    Risk.braces? (body ++ '\x7d' :: rest) = (Risk.repeats? body).map fun b => (b, rest) := by
  obtain ⟨htake, hdrop⟩ := cut_at h rest
  unfold Risk.braces?
  rw [hdrop, htake]

variable {t t' rest : List Char} {n m : Nat}

theorem repeats?_of_comma (h : IsCount t n) (t' : List Char) :
    Risk.repeats? (t ++ ',' :: t') = if trim t' = [] then some true
      else (Risk.count? (trim t')).map fun n => decide (1 < n) := by
  obtain ⟨htake, hdrop⟩ := cut_at h.comma t'
  unfold Risk.repeats?
  rw [hdrop, htake]
  dsimp only
  rw [h.value]
  cases trim t' <;> rfl

/-- Exactly so many times. -/
theorem braces?_exact (h : IsCount t n) :
    Risk.braces? (t ++ '\x7d' :: rest) = some (decide (1 < n), rest) := by
  have hne : ∀ c ∈ t, (c != ',') = true := fun c hc => bne_iff_ne.mpr (h.comma c hc)
  have htake : (t ++ []).takeWhile (· != ',') = t ++ [] := List.takeWhile_append_of_pos hne
  have hdrop : (t ++ []).dropWhile (· != ',') = [] := List.dropWhile_append_of_pos hne
  rw [List.append_nil] at htake hdrop
  rw [braces?_of_body h.brace]
  unfold Risk.repeats?
  rw [htake, hdrop]
  dsimp only
  rw [h.value]
  rfl

/-- So many times or more. -/
theorem braces?_atLeast (h : IsCount t n) :
    Risk.braces? (t ++ ',' :: '\x7d' :: rest) = some (true, rest) := by
  have hbrace : ∀ c ∈ t ++ [','], c ≠ '\x7d' := by
    simp only [List.forall_mem_append, List.forall_mem_singleton]
    exact ⟨h.brace, by decide⟩
  have hbody : t ++ ',' :: '\x7d' :: rest = (t ++ [',']) ++ '\x7d' :: rest := by simp
  rw [hbody, braces?_of_body hbrace, repeats?_of_comma h]
  rfl

/-- Between so many and so many times. -/
theorem braces?_between (h : IsCount t n) (h' : IsCount t' m) :
    Risk.braces? (t ++ ',' :: (t' ++ '\x7d' :: rest)) = some (decide (1 < m), rest) := by
  have hbrace : ∀ c ∈ t ++ ',' :: t', c ≠ '\x7d' := by
    simp only [List.forall_mem_append, List.forall_mem_cons]
    exact ⟨h.brace, by decide, h'.brace⟩
  have hbody : t ++ ',' :: (t' ++ '\x7d' :: rest) = (t ++ ',' :: t') ++ '\x7d' :: rest := by simp
  rw [hbody, braces?_of_body hbrace, repeats?_of_comma h, if_neg h'.nonempty, h'.value]
  rfl

theorem iterates_none : Iterates none := nofun

theorem iterates_some : decide (1 < m) = true ↔ Iterates (some m) := by
  rw [decide_eq_true_iff]
  exact ⟨fun h n hn => by cases hn; exact h, fun h => h m rfl⟩

/-- **Counts that are read are counts for the walk**, and it tells whether they allow more than one
pass. -/
theorem readCounts_eq_some {s : List Char} {low : Nat} {high : Option Nat}
    (h : readCounts false s = some (low, high, rest)) :
    ∃ repeating, Risk.braces? s = some (repeating, rest) ∧ (repeating = true ↔ Iterates high) := by
  unfold readCounts at h
  simp only [skip_false] at h
  obtain ⟨n, hn, hread⟩ := Option.bind_eq_some_iff.mp h
  clear h
  obtain ⟨behind, hbehind⟩ : ∃ t, (readDecimal false s).2 = t := ⟨_, rfl⟩
  rw [hbehind] at hread
  split at hread
  · cases hread
  · obtain ⟨t, rfl, hcount⟩ := isCount_of_readDecimal (Prod.ext hn hbehind) ‹_›
    clear hn hbehind
    split at hread
    · split at hread
      · cases hread
        exact ⟨true, braces?_atLeast hcount, iff_of_true rfl iterates_none⟩
      · cases hread
      · rename_i behind _ _ _
        obtain ⟨m, hm, hhigh⟩ := Option.bind_eq_some_iff.mp hread
        clear hread
        obtain ⟨last, hlast⟩ : ∃ t, (readDecimal false behind).2 = t := ⟨_, rfl⟩
        rw [hlast] at hhigh
        split at hhigh
        · cases hhigh
        · obtain ⟨t', rfl, hcount'⟩ := isCount_of_readDecimal (Prod.ext hm hlast) ‹_›
          clear hm hlast
          split at hhigh
          · split at hhigh
            · cases hhigh
              exact ⟨_, braces?_between hcount hcount', iterates_some⟩
            · cases hhigh
          · cases hhigh
    · cases hread
      exact ⟨_, braces?_exact hcount, iterates_some⟩
    · cases hread

end Pattern

end ValueSchema
