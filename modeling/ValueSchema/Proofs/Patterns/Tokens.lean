/-
What the reader takes for a token the walk passes.

Without the flag for blanks the reader and the walk cut the text of a plain pattern at the same
places. Code points are the exception: the walk knows one way less to write them in braces, and may
take such braces for counts and what stands behind them for a mark. It then has noted a repetition
where there is none, which does no harm.
-/
import ValueSchema.Proofs.Patterns.Walks

set_option autoImplicit false

namespace ValueSchema

open Pattern
open Risk (Atom Scan Passes Operator operators)

/-- The atom stands for a pattern that consumes a character: what the walk notes of it. -/
def Risk.Atom.Covers (a : Atom) : Pattern → Prop
  | .literal c _ => a = .char c ∨ a = .wide
  | .perl kind negated => a = .ofPerl kind negated
  | .dot => a = .wide
  | .named _ _ => a = .wide
  | .bracketed _ _ => a = .wide
  | .group _ _ => a = .wide
  | _ => False

/-! ## Escapes -/

namespace Pattern

@[simp] theorem skip_false (s : List Char) : skip false s = s := rfl

/-- What follows the letter of an escape: characters that stand for themselves, in braces or not. -/
inductive Tail : List Char → List Char → Prop
  | bare {l rest : List Char} (hne : l ≠ []) (hl : ∀ c ∈ l, c ∉ operators) : Tail (l ++ rest) rest
  | braced {l rest : List Char} (hl : ∀ c ∈ l, c ∉ operators) (hbrace : '\x7d' ∉ l) :
    Tail ('\x7b' :: (l ++ '\x7d' :: rest)) rest

theorem not_operator_of_hexDigit {c : Char} {n : Nat} (h : Text.hexDigit? c = some n) :
    c ∉ operators ∧ c ≠ '\x7d' := by
  have hdigit : ∀ d ∈ '\x7d' :: operators, Text.hexDigit? d = none :=
    Risk.forall_mem_of_all (by decide)
  constructor
  · intro hc
    rw [hdigit c (List.mem_cons_of_mem _ hc)] at h
    cases h
  · rintro rfl
    rw [hdigit _ List.mem_cons_self] at h
    cases h

theorem hexDigits_eq_some {n : Nat} : ∀ {acc s ds rest : List Char},
    hexDigits false n acc s = some (ds, rest) →
      ∃ l : List Char, s = l ++ rest ∧ l.length = n ∧ ∀ c ∈ l, c ∉ operators := by
  induction n with
  | zero =>
    intro acc s ds rest h
    cases h
    exact ⟨[], rfl, rfl, nofun⟩
  | succ n ih =>
    intro acc s ds rest h
    cases s with
    | nil => cases h
    | cons c s =>
      unfold hexDigits at h
      split at h
      · obtain ⟨l, rfl, rfl, hl⟩ := ih h
        exact ⟨c :: l, rfl, rfl, List.forall_mem_cons.mpr ⟨(not_operator_of_hexDigit ‹_›).1, hl⟩⟩
      · cases h

theorem hexBrace_eq_some {fuel : Nat} : ∀ {acc s ds rest : List Char},
    hexBrace false fuel acc s = some (ds, rest) →
      ∃ l : List Char, s = l ++ '\x7d' :: rest ∧ (∀ c ∈ l, c ∉ operators) ∧ '\x7d' ∉ l := by
  induction fuel with
  | zero => exact fun h => nomatch h
  | succ fuel ih =>
    intro acc s ds rest h
    cases s with
    | nil => cases h
    | cons c s =>
      unfold hexBrace at h
      split at h
      · rename_i hc
        split at h
        · cases h
        · cases h
          exact ⟨[], by rw [hc]; rfl, nofun, List.not_mem_nil⟩
      · split at h
        · rename_i hdigit
          obtain ⟨l, rfl, hl, hbrace⟩ := ih h
          obtain ⟨hc, hne⟩ := not_operator_of_hexDigit hdigit
          exact ⟨c :: l, rfl, List.forall_mem_cons.mpr ⟨hc, hl⟩,
            List.not_mem_cons_of_ne_of_not_mem hne.symm hbrace⟩
        · cases h

theorem readHex_eq_some {letter : Char} {s rest : List Char} {prim : Primitive}
    (h : readHex false letter s = some (prim, rest)) :
    (∃ c asByte, prim = .literal c asByte) ∧ Tail s rest := by
  unfold readHex at h
  simp only [skip_false] at h
  split at h
  · obtain ⟨⟨ds, rest'⟩, hds, h⟩ := Option.bind_eq_some_iff.mp h
    obtain ⟨c, _, h⟩ := Option.bind_eq_some_iff.mp h
    cases h
    obtain ⟨l, rfl, hl, hbrace⟩ := hexBrace_eq_some hds
    exact ⟨⟨c, _, rfl⟩, .braced hl hbrace⟩
  · obtain ⟨⟨ds, rest'⟩, hds, h⟩ := Option.bind_eq_some_iff.mp h
    obtain ⟨c, _, h⟩ := Option.bind_eq_some_iff.mp h
    cases h
    obtain ⟨l, rfl, hlen, hl⟩ := hexDigits_eq_some hds
    refine ⟨⟨c, _, rfl⟩, .bare (fun hnil => ?_) hl⟩
    rw [hnil, List.length_nil] at hlen
    split at hlen
    · cases hlen
    · split at hlen <;> cases hlen

theorem nameInBraces_eq_some {fuel : Nat} : ∀ {acc s name rest : List Char},
    nameInBraces false fuel acc s = some (name, rest) →
      ∃ l : List Char, s = l ++ '\x7d' :: rest ∧ name = acc.reverse ++ l ∧ '\x7d' ∉ l := by
  induction fuel with
  | zero => exact fun h => nomatch h
  | succ fuel ih =>
    intro acc s name rest h
    cases s with
    | nil => cases h
    | cons c s =>
      unfold nameInBraces at h
      split at h
      · rename_i hc
        cases h
        exact ⟨[], by rw [hc]; rfl, (List.append_nil _).symm, List.not_mem_nil⟩
      · rename_i hc
        obtain ⟨l, rfl, rfl, hbrace⟩ := ih h
        refine ⟨c :: l, rfl, ?_, List.not_mem_cons_of_ne_of_not_mem (fun h => hc h.symm) hbrace⟩
        rw [List.reverse_cons, List.append_assoc]
        rfl

theorem dropPrefix?_eq_some {start : List Char} : ∀ {s rest : List Char},
    dropPrefix? start s = some rest → s = start ++ rest := by
  induction start with
  | nil => exact fun h => Option.some.inj h
  | cons p start ih =>
    intro s rest h
    cases s with
    | nil => cases h
    | cons c s =>
      unfold dropPrefix? at h
      split at h
      · rename_i hpc
        rw [hpc, ih h]
        rfl
      · cases h

theorem splitAtFirst?_eq_some {separator : List Char} : ∀ {s acc before behind : List Char},
    splitAtFirst? separator acc s = some (before, behind) →
      acc.reverse ++ s = before ++ separator ++ behind := by
  intro s
  induction s with
  | nil =>
    intro acc before behind h
    unfold splitAtFirst? at h
    split at h
    · rename_i hdrop
      cases h
      rw [dropPrefix?_eq_some hdrop, List.append_assoc]
    · cases h
  | cons c s ih =>
    intro acc before behind h
    unfold splitAtFirst? at h
    split at h
    · rename_i hdrop
      cases h
      rw [dropPrefix?_eq_some hdrop, List.append_assoc]
    · rw [← ih h, List.reverse_cons, List.append_assoc]
      rfl

/-- A plain name is written with characters that stand for themselves. -/
theorem plain_className {name : List Char} (h : (className name).1.Plain) :
    ∀ c ∈ name, c ∉ operators := by
  -- a separator is none of the characters that are read as more than themselves
  have hsplit : ∀ {separator before behind : List Char}, (∀ c ∈ separator, c ∉ operators) →
      splitAtFirst? separator [] name = some (before, behind) →
      (ClassName.valued (String.ofList before) (String.ofList behind)).Plain →
      ∀ c ∈ name, c ∉ operators := by
    intro separator before behind hseparator hname hplain c hc
    have hjoin : name = before ++ separator ++ behind := splitAtFirst?_eq_some hname
    rw [hjoin] at hc
    simp only [ClassName.Plain, String.toList_ofList, List.mem_append] at hplain hc
    rcases hc with (hc | hc) | hc
    · exact hplain c (.inl hc)
    · exact hseparator c hc
    · exact hplain c (.inr hc)
  unfold className at h
  split at h
  · refine hsplit (Risk.forall_mem_of_all ?_) ‹_› h
    decide
  · split at h
    · refine hsplit (Risk.forall_mem_of_all ?_) ‹_› h
      decide
    · split at h
      · refine hsplit (Risk.forall_mem_of_all ?_) ‹_› h
        decide
      · simpa only [ClassName.Plain, String.toList_ofList] using h

theorem readNamed_eq_some {negated : Bool} {s rest : List Char} {prim : Primitive}
    (h : readNamed false negated s = some (prim, rest)) (hplain : prim.toPattern.PlainNode) :
    (∃ name flipped, prim = .named name flipped) ∧ Tail s rest := by
  unfold readNamed at h
  simp only [skip_false] at h
  split at h
  · cases h
  · obtain ⟨⟨name, rest'⟩, hname, h⟩ := Option.bind_eq_some_iff.mp h
    cases h
    obtain ⟨l, rfl, rfl, hbrace⟩ := nameInBraces_eq_some hname
    exact ⟨⟨_, _, rfl⟩, .braced (plain_className hplain) hbrace⟩
  · cases h
  · rename_i c s' _ _
    cases h
    refine ⟨⟨_, _, rfl⟩, .bare (List.cons_ne_nil c []) fun d hd => ?_⟩
    cases List.mem_singleton.mp hd
    exact hplain c (by rw [String.toList_singleton]; exact List.mem_singleton_self c)

/-- A plain boundary is a single letter. -/
theorem readBoundary_eq_some {s rest : List Char} {prim : Primitive}
    (h : readBoundary false s = some (prim, rest)) (hplain : prim.toPattern.PlainNode) :
    (∃ b, prim = .assertion b) ∧ rest = s := by
  have hnamed : ∀ {b : Boundary} {t : List Char},
      some (Primitive.assertion (.word b), t) = some (prim, rest) → b ≠ .edge → b ≠ .inside →
      False := by
    intro b t h hedge hinside
    cases h
    exact hplain.elim hedge hinside
  unfold readBoundary at h
  split at h
  · split at h
    · cases h
    · split at h
      · split at h
        split at h
        · split at h
          · exact (hnamed h nofun nofun).elim
          · exact (hnamed h nofun nofun).elim
          · exact (hnamed h nofun nofun).elim
          · exact (hnamed h nofun nofun).elim
          · cases h
        · cases h
      · cases h
        exact ⟨⟨_, rfl⟩, rfl⟩
  · cases h
    exact ⟨⟨_, rfl⟩, rfl⟩

/-- A character that is no letter and no digit stands for itself behind a backslash. -/
theorem escapeOf_of_isEscapable {c : Char} (h : isEscapable c = true) (s : List Char) :
    Risk.escapeOf c s = .atom (.char c) := by
  have hmeta : ∀ d ∈ "\\.+*?()|[]\x7b\x7d^$#&-~".toList, d.isAlphanum = false :=
    Risk.forall_mem_of_all (by decide)
  have halnum : c.isAlphanum = false := by
    unfold isEscapable at h
    rcases (Bool.or_eq_true _ _).mp h with h | h
    · exact hmeta c (List.contains_iff_mem.mp h)
    · simp only [Bool.and_eq_true, Bool.not_eq_true'] at h
      exact h.1.1.2
  unfold Risk.escapeOf
  split
  all_goals first | exact absurd halnum (by decide) | skip
  have hk : c ≠ 'k' := by
    rintro rfl
    exact absurd halnum (by decide)
  have hdigit : ('1' ≤ c && c ≤ '9') = false := by
    refine Bool.eq_false_iff.mpr fun hd => ?_
    simp only [Bool.and_eq_true, decide_eq_true_eq, Char.le_def, UInt32.le_iff_toNat_le] at hd
    have hlow : (48 : UInt32) ≤ c.val := UInt32.le_iff_toNat_le.mpr (Nat.le_trans (by decide) hd.1)
    have hhigh : c.val ≤ 57 := UInt32.le_iff_toNat_le.mpr hd.2
    simp [Char.isAlphanum, Char.isDigit, hlow, hhigh] at halnum
  simp [hk, hdigit, halnum]

/-- **An escape is passed as what it means**: code points and named classes as what may be anything,
with characters behind the letter, all others as the letter says. -/
theorem readEscape_eq_some {c : Char} {s rest : List Char} {prim : Primitive}
    (h : readEscape false (c :: s) = some (prim, rest)) (hplain : prim.toPattern.PlainNode) :
    ((Risk.escapeOf c s = .named ∨ Risk.escapeOf c s = .atom .wide)
        ∧ Atom.wide.Covers prim.toPattern ∧ Tail s rest)
      ∨ rest = s ∧ (((∃ b, prim = .assertion b) ∧ Risk.escapeOf c s = .anchor)
        ∨ ∃ a : Atom, a.Covers prim.toPattern ∧ Risk.escapeOf c s = .atom a) := by
  have hhex : ∀ {letter : Char}, readHex false letter s = some (prim, rest) →
      Atom.wide.Covers prim.toPattern ∧ Tail s rest := by
    intro letter h
    obtain ⟨⟨x, asByte, rfl⟩, htail⟩ := readHex_eq_some h
    exact ⟨.inr rfl, htail⟩
  have hname : ∀ {negated : Bool}, readNamed false negated s = some (prim, rest) →
      Atom.wide.Covers prim.toPattern ∧ Tail s rest := by
    intro negated h
    obtain ⟨⟨x, flipped, rfl⟩, htail⟩ := readNamed_eq_some h hplain
    exact ⟨rfl, htail⟩
  unfold readEscape at h
  dsimp only at h
  split at h
  · exact .inl ⟨.inl rfl, hhex h⟩
  · exact .inl ⟨.inl rfl, hhex h⟩
  · exact .inl ⟨.inr rfl, hhex h⟩
  · exact .inl ⟨.inl rfl, hname h⟩
  · exact .inl ⟨.inl rfl, hname h⟩
  -- the six one-letter classes
  iterate 6
    · cases h
      exact .inr ⟨rfl, .inr ⟨_, rfl, rfl⟩⟩
  -- control characters, three of which the walk knows
  iterate 2
    · cases h
      exact .inr ⟨rfl, .inr ⟨.wide, .inr rfl, rfl⟩⟩
  iterate 3
    · cases h
      exact .inr ⟨rfl, .inr ⟨_, .inl rfl, rfl⟩⟩
  · cases h
    exact .inr ⟨rfl, .inr ⟨.wide, .inr rfl, rfl⟩⟩
  -- assertions; the angle brackets are not plain
  iterate 2
    · cases h
      exact .inr ⟨rfl, .inl ⟨⟨_, rfl⟩, rfl⟩⟩
  · obtain ⟨hb, hrest⟩ := readBoundary_eq_some h hplain
    exact .inr ⟨hrest, .inl ⟨hb, rfl⟩⟩
  · cases h
    exact .inr ⟨rfl, .inl ⟨⟨_, rfl⟩, rfl⟩⟩
  iterate 2
    · cases h
      rcases hplain with hb | hb <;> cases hb
  · split at h
    · cases h
      exact .inr ⟨rfl, .inr ⟨_, .inl rfl, escapeOf_of_isEscapable ‹_› _⟩⟩
    · cases h

/-! ### Their characters -/

theorem dropWhile_brace {l rest : List Char} (h : '\x7d' ∉ l) :
    (l ++ '\x7d' :: rest).dropWhile (· != '\x7d') = '\x7d' :: rest := by
  have hne : ∀ c ∈ l, (c != '\x7d') = true := by
    intro c hc
    refine bne_iff_ne.mpr ?_
    rintro rfl
    exact h hc
  rw [List.dropWhile_append_of_pos hne]
  rfl

variable {scan : Scan} {s rest : List Char}

/-- The characters behind the letter of a named escape are skipped or stand for themselves. -/
theorem passes_named {c : Char} (h : Risk.escapeOf c s = .named) (htail : Tail s rest) :
    Passes scan ('\\' :: c :: s) (scan.atom .wide) rest := by
  refine (Risk.passes_escape_named h).trans ?_
  cases htail with
  | @bare l _ hne hl =>
    obtain ⟨d, l, rfl⟩ := List.exists_cons_of_ne_nil hne
    have hd : d ≠ '\x7b' := by
      rintro rfl
      exact hl _ List.mem_cons_self (by decide)
    rw [if_neg (by simpa using hd)]
    exact Risk.passes_chars .wide hl
  | @braced l _ hl hbrace =>
    have hafter : Risk.afterBrace ('\x7b' :: (l ++ '\x7d' :: rest)) = rest := by
      show ((l ++ '\x7d' :: rest).dropWhile (· != '\x7d')).drop 1 = rest
      rw [dropWhile_brace hbrace]
      rfl
    have hhead : (('\x7b' :: (l ++ '\x7d' :: rest)).head? == some '\x7b') = true := rfl
    rw [if_pos hhead, hafter]
    exact .refl _ _

/-- Braces that the walk does not expect stand for themselves, or are taken for counts. -/
theorem passes_tail (htail : Tail s rest) :
    Passes (scan.atom .wide) s (scan.atom .wide) rest
      ∨ Passes (scan.atom .wide) s ⟨(scan.top.saw .wide).mark true, scan.below, none⟩
          (Risk.skipMark rest) := by
  cases htail with
  | bare _ hl => exact .inl (Risk.passes_chars .wide hl)
  | @braced l _ hl hbrace =>
    cases hcounts : Risk.braces? (l ++ '\x7d' :: rest) with
    | none =>
      left
      -- the brackets of the braces are characters as well
      have hopen := Risk.passes_brace (s := scan.atom .wide) hcounts
      rw [Scan.atom_atom] at hopen
      have hclose : Passes (scan.atom .wide) ('\x7d' :: rest)
          ((scan.atom .wide).atom (.char '\x7d')) rest := Risk.passes_char (.inl (by decide))
      rw [Scan.atom_atom] at hclose
      exact hopen.trans ((Risk.passes_chars .wide hl).trans hclose)
    | some counts =>
      right
      obtain ⟨repeating, behind⟩ := counts
      have hbehind : behind = rest := by
        unfold Risk.braces? at hcounts
        rw [dropWhile_brace hbrace] at hcounts
        obtain ⟨_, _, hpair⟩ := Option.map_eq_some_iff.mp hcounts
        exact (congrArg Prod.snd hpair).symm
      rw [hbehind] at hcounts
      exact Risk.passes_operator (.braces hcounts) rfl

/-- **A token outside brackets passes as it was read**: an assertion is forgotten, and what consumes
a character is noted as an atom. -/
theorem passes_primitive {prim : Primitive} (h : readPrimitive false s = some (prim, rest))
    (hplain : prim.toPattern.PlainNode)
    (hfree : ∀ c more, s = c :: more → c ∉ "()|[?*+\x7b".toList) :
    ((∃ b, prim = .assertion b) ∧ Passes scan s scan.forget rest)
      ∨ ∃ a : Atom, a.Covers prim.toPattern ∧ (Passes scan s (scan.atom a) rest
        ∨ Passes scan s ⟨(scan.top.saw a).mark true, scan.below, none⟩ (Risk.skipMark rest)) := by
  unfold readPrimitive at h
  split at h
  · cases h
  · rename_i s'
    cases s' with
    | nil => cases h
    | cons c s' =>
      rcases readEscape_eq_some h hplain with
        ⟨hesc, hcovers, htail⟩ | ⟨rfl, ⟨hb, hesc⟩ | ⟨a, hcovers, hesc⟩⟩
      · rcases hesc with hesc | hesc
        · exact .inr ⟨.wide, hcovers, .inl (passes_named hesc htail)⟩
        · have hletter := Risk.passes_escape_atom (s := scan) hesc
          exact .inr ⟨.wide, hcovers, (passes_tail htail).imp hletter.trans hletter.trans⟩
      · exact .inl ⟨hb, Risk.passes_escape_anchor hesc⟩
      · exact .inr ⟨a, hcovers, .inl (Risk.passes_escape_atom hesc)⟩
  · cases h
    exact .inr ⟨.wide, rfl, .inl Risk.passes_dot⟩
  · cases h
    exact .inl ⟨⟨_, rfl⟩, Risk.passes_caret⟩
  · cases h
    exact .inl ⟨⟨_, rfl⟩, Risk.passes_dollar⟩
  · rename_i c s' hslash hdot hcaret hdollar
    cases h
    refine .inr ⟨.char c, .inl rfl, .inl (Risk.passes_char ?_)⟩
    have hoperators : ∀ d ∈ operators, d ∈ "()|[?*+\x7b".toList
        ∨ d = '\\' ∨ d = '.' ∨ d = '^' ∨ d = '$' ∨ d = ']' :=
      Risk.forall_mem_of_all (by decide)
    refine Decidable.or_iff_not_imp_right.mpr fun hbracket hc => ?_
    rcases hoperators c hc with hc | rfl | rfl | rfl | rfl | rfl
    · exact hfree c rest rfl hc
    · exact hslash rfl
    · exact hdot rfl
    · exact hcaret rfl
    · exact hdollar rfl
    · exact hbracket rfl

/-! ## Heads of groups -/

theorem readGroupName_eq_some : ∀ {s acc : List Char} {name : String} {rest : List Char},
    readGroupName acc s = some (name, rest) → (s.dropWhile (· != '>')).drop 1 = rest := by
  intro s
  induction s with
  | nil => exact fun h => nomatch h
  | cons c s ih =>
    intro acc name rest h
    unfold readGroupName at h
    split at h
    · rename_i hc
      split at h
      · cases h
      · cases h
        rw [hc]
        rfl
    · rename_i hc
      split at h
      · have hne : (c != '>') = true := bne_iff_ne.mpr hc
        rw [List.dropWhile_cons_of_pos (p := (· != '>')) hne]
        exact ih h
      · cases h

/-- The flags in front of a group end where the walk stops. -/
theorem readFlags_eq_some : ∀ {s : List Char} {negative afterMinus : Bool} {acc set : PatternFlags}
    {c : Char} {rest : List Char}, readFlags negative afterMinus acc s = some (set, c :: rest) →
    Risk.skipFlags s = if c = ')' then .switch rest else .group rest := by
  intro s
  induction s with
  | nil => exact fun h => nomatch h
  | cons d s ih =>
    intro negative afterMinus acc set c rest h
    unfold readFlags at h
    unfold Risk.skipFlags
    split at h
    · rename_i hend
      split at h
      · cases h
      · cases h
        -- a group goes on behind a colon, and only there
        by_cases hc : d = ')'
        · rw [if_pos hc, if_pos hc]
        · have hcolon : d = ':' := by simpa [hc] using hend
          rw [if_neg hc, if_neg hc, if_pos hcolon]
    · rename_i hend
      simp only [Bool.or_eq_true, decide_eq_true_eq, not_or] at hend
      rw [if_neg hend.2, if_neg hend.1]
      split at h
      · split at h
        · cases h
        · exact ih h
      · split at h
        · cases h
        · split at h
          · cases h
          · exact ih h

/-- **The head of a group is passed** as a switch or up to where the group goes on. -/
theorem readOpening_eq_some {names : List String} {s rest : List Char} {opening : Opening}
    (h : readOpening names s = some (opening, rest)) :
    (s = rest ∧ (∀ more, s ≠ '?' :: more) ∧ ∃ names', opening = .group .capturing names')
      ∨ ∃ more, s = '?' :: more ∧ Risk.isLookaround more = false
        ∧ ((∃ kind names', opening = .group kind names' ∧ Risk.skipHeader more = .group rest)
          ∨ ∃ set, opening = .switch set ∧ Risk.skipHeader more = .switch rest) := by
  have hname : ∀ {text : List Char},
      ((readGroupName [] text).bind fun read =>
        if names.contains read.1 then none
        else some (.group .capturing (read.1 :: names), read.2)) = some (opening, rest) →
      (text.dropWhile (· != '>')).drop 1 = rest
        ∧ ∃ kind names', opening = .group kind names' := by
    intro text h
    obtain ⟨⟨name, behind⟩, hread, h⟩ := Option.bind_eq_some_iff.mp h
    dsimp only at h
    split at h
    · cases h
    · cases h
      exact ⟨readGroupName_eq_some hread, _, _, rfl⟩
  unfold readOpening at h
  dsimp only at h
  split at h
  iterate 4
    · cases h
  · obtain ⟨hrest, kind, names', hopening⟩ := hname h
    exact .inr ⟨_, rfl, rfl, .inl ⟨kind, names', hopening, congrArg _ hrest⟩⟩
  · rename_i text hequals hmark
    obtain ⟨hrest, kind, names', hopening⟩ := hname h
    refine .inr ⟨_, rfl, ?_, .inl ⟨kind, names', hopening, congrArg _ hrest⟩⟩
    unfold Risk.isLookaround
    split
    · rename_i heq
      cases heq
    · rename_i heq
      cases heq
    · rename_i heq
      cases heq
      exact (hequals _ rfl).elim
    · rename_i heq
      cases heq
      exact (hmark _ rfl).elim
    · rfl
  · rename_i more hequals hmark hbehind hnot hP hangle
    obtain ⟨⟨set, behind⟩, hflags, h⟩ := Option.bind_eq_some_iff.mp h
    have hlook : Risk.isLookaround more = false := by
      unfold Risk.isLookaround
      split
      · exact (hequals _ rfl).elim
      · exact (hmark _ rfl).elim
      · exact (hangle _ rfl).elim
      · exact (hangle _ rfl).elim
      · rfl
    have hheader : Risk.skipHeader more = Risk.skipFlags more := by
      unfold Risk.skipHeader
      split
      · cases hflags
      · exact (hangle _ rfl).elim
      · rfl
    refine .inr ⟨more, rfl, hlook, ?_⟩
    rw [hheader]
    dsimp only at h
    split at h
    · split at h
      · cases h
      · cases h
        exact .inr ⟨set, rfl, readFlags_eq_some hflags⟩
    · rename_i c behind' hclose
      cases h
      refine .inl ⟨_, _, rfl, (readFlags_eq_some hflags).trans (if_neg ?_)⟩
      rintro rfl
      exact hclose rfl
    · cases h
  · rename_i hquestion
    cases h
    exact .inl ⟨rfl, fun more heq => hquestion more heq, _, rfl⟩

end Pattern

end ValueSchema
