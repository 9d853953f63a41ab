/-
Brackets end where the walk takes them to end.

The walk does not read a class, it counts brackets: one more for each that opens, one less for each
that closes, and whatever stands behind a backslash is left out. The reader keeps the open brackets
on a stack. The count is the height of the stack as long as every bracket that is counted opens or
closes a class, which is what makes the items of a class plain.
-/
import ValueSchema.Proofs.Patterns.Tokens

set_option autoImplicit false

namespace ValueSchema

open Risk (skipBrackets skipClass)

/-! ## Plain items -/

theorem ClassItem.allPlain_iff {nested : Bool} {l : List ClassItem} :
    ClassItem.AllPlain nested l ↔ ∀ i ∈ l, i.Plain nested := by
  induction l with
  | nil => exact iff_of_true trivial nofun
  | cons i l ih =>
    rw [List.forall_mem_cons, ← ih]
    rfl

/-- What is plain inside brackets is plain outside. -/
theorem ClassItem.Plain.outside {i : ClassItem} (h : i.Plain true) (nested : Bool) :
    i.Plain nested := by
  cases i with
  | literal c _ => exact fun _ => h rfl
  | _ => exact h

theorem ClassSet.Plain.outside : ∀ {set : ClassSet}, set.Plain true → ∀ nested, set.Plain nested
  | .items _, h, nested => ClassItem.allPlain_iff.mpr fun i hi =>
    (ClassItem.allPlain_iff.mp h i hi).outside nested
  | .operation _ _ _, h, nested => ⟨outside h.1 nested, outside h.2 nested⟩

/-! ## Counting brackets -/

namespace Pattern

variable {depth : Nat} {rest : List Char}

theorem skipBrackets_char {c : Char} (hslash : c ≠ '\\') (hopen : c ≠ '[') (hclose : c ≠ ']') :
    skipBrackets depth (c :: rest) = skipBrackets depth rest := by
  conv => lhs; unfold skipBrackets
  split
  · rename_i heq
    cases heq
  · rename_i heq
    cases heq
    exact absurd rfl hslash
  · rename_i heq
    cases heq
    rw [if_neg hopen, if_neg hclose]

theorem skipBrackets_chars {l : List Char} (h : ∀ c ∈ l, c ∉ Risk.operators) :
    skipBrackets depth (l ++ rest) = skipBrackets depth rest := by
  induction l with
  | nil => rfl
  | cons c l ih =>
    rw [List.forall_mem_cons] at h
    have hne : ∀ d ∈ Risk.operators, c ≠ d := by
      rintro d hd rfl
      exact h.1 hd
    rw [List.cons_append, skipBrackets_char (hne _ (by decide)) (hne _ (by decide))
      (hne _ (by decide)), ih h.2]

theorem skipBrackets_escape {c : Char} :
    skipBrackets depth ('\\' :: c :: rest) = skipBrackets depth rest := by
  rw [skipBrackets]

theorem skipBrackets_tail {s : List Char} (h : Tail s rest) :
    skipBrackets depth s = skipBrackets depth rest := by
  cases h with
  | bare _ hl => exact skipBrackets_chars hl
  | braced hl _ =>
    rw [skipBrackets_char (by decide) (by decide) (by decide), skipBrackets_chars hl,
      skipBrackets_char (by decide) (by decide) (by decide)]

/-! ## Items -/

/-- A bracket stands in front of a text. -/
def AtBracket (s : List Char) : Prop := ∃ more, s = '[' :: more ∨ s = ']' :: more

variable {s : List Char}

/-- A plain token holds no bracket that counts. -/
theorem skipBrackets_primitive {prim : Primitive}
    (h : readClassPrimitive false s = some (prim, rest)) (hplain : prim.toPattern.PlainNode)
    (hs : ¬ AtBracket s) :
    skipBrackets depth s = skipBrackets depth rest := by
  unfold readClassPrimitive at h
  split at h
  · cases h
  · rename_i s'
    cases s' with
    | nil => cases h
    | cons c s' =>
      rw [skipBrackets_escape]
      rcases readEscape_eq_some h hplain with ⟨_, _, htail⟩ | ⟨rfl, _⟩
      · exact skipBrackets_tail htail
      · rfl
  · rename_i c s' hslash
    cases h
    refine skipBrackets_char hslash ?_ ?_
    · rintro rfl
      exact hs ⟨_, .inl rfl⟩
    · rintro rfl
      exact hs ⟨_, .inr rfl⟩

theorem plainNode_of_toItem? {prim : Primitive} {item : ClassItem} {nested : Bool}
    (h : prim.toItem? = some item) (hplain : item.Plain nested) : prim.toPattern.PlainNode := by
  cases prim with
  | literal c asByte => trivial
  | perl kind negated => trivial
  | named name negated =>
    cases h
    exact hplain
  | dot => trivial
  | assertion a => cases h

/-- A plain item, range or not, holds no bracket that counts. -/
theorem skipBrackets_item {item : ClassItem} {nested : Bool}
    (h : readClassRange false s = some (item, rest)) (hplain : item.Plain nested)
    (hs : ¬ AtBracket s) : skipBrackets depth s = skipBrackets depth rest := by
  unfold readClassRange at h
  obtain ⟨⟨first, behind⟩, hfirst, hitem⟩ := Option.bind_eq_some_iff.mp h
  clear h
  simp only [skip_false] at hitem
  have hsingle : (do let i ← first.toItem?; some (i, behind)) = some (item, rest) →
      skipBrackets depth s = skipBrackets depth rest := by
    intro hsingle
    obtain ⟨i, hi, hpair⟩ := Option.bind_eq_some_iff.mp hsingle
    cases hpair
    exact skipBrackets_primitive hfirst (plainNode_of_toItem? hi hplain) hs
  split at hitem
  · cases hitem
  · rename_i more
    split at hitem
    · exact hsingle hitem
    · rename_i hahead
      obtain ⟨⟨second, last⟩, hsecond, hrange⟩ := Option.bind_eq_some_iff.mp hitem
      clear hitem
      split at hrange
      · rename_i hliteral
        cases hliteral
        split at hrange
        · cases hrange
          -- the range does not end at an unescaped bracket
          have hmore : ¬ AtBracket more := by
            rintro ⟨m, rfl | rfl⟩
            · cases hsecond
              exact hplain rfl
            · exact hahead rfl
          rw [skipBrackets_primitive hfirst trivial hs,
            skipBrackets_char (by decide) (by decide) (by decide),
            skipBrackets_primitive hsecond trivial hmore]
        · cases hrange
      · cases hrange
  · exact hsingle hitem

/-! ## Opening brackets -/

theorem leadingHyphens_eq {n : Nat} : ∀ {acc items : List ClassItem} {s rest : List Char},
    leadingHyphens false n acc s = (items, rest) →
      ∃ l : List Char, s = l ++ rest ∧ (∀ c ∈ l, c = '-') ∧ (items = [] → acc = [] ∧ l = [])
        ∧ (l = [] → items = acc) := by
  induction n with
  | zero =>
    intro acc items s rest h
    cases h
    exact ⟨[], rfl, nofun, fun h => ⟨h, rfl⟩, fun _ => rfl⟩
  | succ n ih =>
    intro acc items s rest h
    unfold leadingHyphens at h
    split at h
    · obtain ⟨l, hs, hl, hitems, _⟩ := ih h
      refine ⟨'-' :: l, congrArg ('-' :: ·) hs, List.forall_mem_cons.mpr ⟨rfl, hl⟩,
        fun h => ?_, nofun⟩
      cases (hitems h).1
    · cases h
      exact ⟨[], rfl, nofun, fun h => ⟨h, rfl⟩, fun _ => rfl⟩

theorem skipBrackets_hyphens {l : List Char} (h : ∀ c ∈ l, c = '-') :
    skipBrackets depth (l ++ rest) = skipBrackets depth rest := by
  refine skipBrackets_chars fun c hc => ?_
  rw [h c hc]
  decide

/-- The text behind a closing bracket in front. -/
def behindBracket : List Char → List Char
  | ']' :: more => more
  | s => s

/-- A closing bracket in front is the first item. -/
def bracketItem : List ClassItem → List Char → List ClassItem × List Char
  | [], ']' :: more => ([.literal ']' false], more)
  | items, more => (items, more)

/-- Behind the caret of a class, hyphens are items, and so is a closing bracket without them. -/
theorem bracketItem_eq {t u : List Char} {found : List ClassItem}
    (h : leadingHyphens false t.length [] t = (found, u)) :
    skipBrackets 1 (behindBracket t) = skipBrackets 1 (bracketItem found u).2
      ∧ (skipBrackets depth t = skipBrackets depth (bracketItem found u).2
        ∨ ClassItem.literal ']' false ∈ (bracketItem found u).1) := by
  obtain ⟨l, rfl, hl, hitems, hnil⟩ := leadingHyphens_eq h
  clear h
  cases l with
  | nil =>
    cases hnil rfl
    unfold bracketItem
    split
    · exact ⟨rfl, .inr List.mem_cons_self⟩
    · rename_i hbracket
      refine ⟨congrArg _ ?_, .inl rfl⟩
      unfold behindBracket
      split
      · rename_i hu
        exact (hbracket _ rfl hu).elim
      · rfl
  | cons c l =>
    -- a hyphen in front: the bracket behind it is no item
    have hc : c = '-' := hl c List.mem_cons_self
    subst hc
    have hskip : ∀ depth, skipBrackets depth ('-' :: l ++ u) = skipBrackets depth u := fun _ =>
      skipBrackets_hyphens (l := '-' :: l) hl
    unfold bracketItem
    split
    · cases (hitems rfl).2
    · exact ⟨hskip 1, .inl (hskip depth)⟩

/-- Whether a caret stands in front, and what is behind it. -/
def behindCaret : List Char → Bool × List Char
  | '^' :: more => (true, more)
  | s => (false, s)

theorem skipBrackets_behindCaret (s : List Char) :
    skipBrackets depth (behindCaret s).2 = skipBrackets depth s := by
  unfold behindCaret
  split
  · exact (skipBrackets_char (by decide) (by decide) (by decide)).symm
  · rfl

theorem behindCaret_of_ne {s : List Char} (h : ∀ more, s ≠ '^' :: more) :
    behindCaret s = (false, s) := by
  unfold behindCaret
  split
  · exact absurd rfl (h _)
  · rfl

theorem skipClass_eq (s : List Char) :
    skipClass s = skipBrackets 1 (behindBracket (behindCaret s).2) := by
  unfold skipClass
  split
  · rfl
  · rename_i h
    rw [behindCaret_of_ne fun more heq => h more heq]
    rfl

theorem openClass_eq (st : ClassState) (s : List Char) : openClass false st ('[' :: s) =
    let t := behindCaret s
    let found := leadingHyphens false t.2.length [] t.2
    let p := bracketItem found.1 found.2
    if p.2.isEmpty then none
    else some (⟨.opened st.items t.1 :: st.stack, p.1⟩, p.2) :=
  rfl

/-- A bracket is opened: the walk skips the same marks behind the outermost one, and behind another
one those that are no closing bracket. -/
theorem openClass_eq_some (depth : Nat) {st st' : ClassState}
    (h : openClass false st ('[' :: rest) = some (st', s)) :
    (∃ negated, st'.stack = .opened st.items negated :: st.stack)
      ∧ skipClass rest = skipBrackets 1 s
      ∧ (skipBrackets depth rest = skipBrackets depth s
        ∨ ClassItem.literal ']' false ∈ st'.items) := by
  rw [openClass_eq] at h
  dsimp only at h
  split at h
  · cases h
  · cases h
    rw [skipClass_eq, ← skipBrackets_behindCaret rest]
    exact ⟨⟨_, rfl⟩, bracketItem_eq rfl⟩

/-! ## Classes between colons -/

theorem skipBrackets_open : skipBrackets depth ('[' :: rest) = skipBrackets (depth + 1) rest := by
  rw [skipBrackets, if_pos rfl]
  decide

theorem skipBrackets_close (h : 0 < depth) :
    skipBrackets (depth + 1) (']' :: rest) = skipBrackets depth rest := by
  rw [skipBrackets, if_neg (by decide), if_pos rfl, if_neg (by omega), Nat.add_sub_cancel]
  decide

theorem skipBrackets_last : skipBrackets 1 (']' :: rest) = rest := by
  rw [skipBrackets, if_neg (by decide), if_pos rfl, if_pos (Nat.le_refl 1)]
  decide

/-- The classes between colons have names of letters. -/
theorem not_operator_of_asciiClass? {name : String} {members : List (Nat × Nat)}
    (h : asciiClass? name = some members) : ∀ c ∈ name.toList, c ∉ Risk.operators := by
  unfold asciiClass? at h
  split at h <;> first | exact Risk.forall_mem_of_all (by decide) | cases h

theorem skipBrackets_ascii {item : ClassItem} (hdepth : 0 < depth)
    (h : readAsciiClass? ('[' :: s) = some (item, rest)) :
    skipBrackets depth ('[' :: s) = skipBrackets depth rest := by
  unfold readAsciiClass? at h
  obtain ⟨t, ht, hbody⟩ := Option.bind_eq_some_iff.mp h
  clear h
  have hs : '[' :: s = '[' :: ':' :: t := dropPrefix?_eq_some ht
  -- a caret is skipped, then the name and what closes the class
  have hcaret : ∀ {negated : Bool} {u : List Char},
      (do
        let name := u.takeWhile (· != ':')
        let rest ← dropPrefix? [':', ']'] (u.dropWhile (· != ':'))
        let members ← asciiClass? (String.ofList name)
        some (ClassItem.ascii members negated, rest)) = some (item, rest) →
      skipBrackets (depth + 1) u = skipBrackets depth rest := by
    intro negated u h
    obtain ⟨rest', hrest, h⟩ := Option.bind_eq_some_iff.mp h
    obtain ⟨members, hmembers, h⟩ := Option.bind_eq_some_iff.mp h
    cases h
    have hname := not_operator_of_asciiClass? hmembers
    rw [String.toList_ofList] at hname
    rw [← List.takeWhile_append_dropWhile (p := (· != ':')) (l := u), skipBrackets_chars hname,
      dropPrefix?_eq_some hrest]
    show skipBrackets (depth + 1) (':' :: ']' :: rest) = _
    rw [skipBrackets_char (by decide) (by decide) (by decide), skipBrackets_close hdepth]
  rw [hs, skipBrackets_open, skipBrackets_char (by decide) (by decide) (by decide)]
  dsimp only at hbody
  split at hbody
  · rw [skipBrackets_char (by decide) (by decide) (by decide)]
    exact hcaret hbody
  · exact hcaret hbody

/-! ## Open brackets -/

/-- How many brackets are open. -/
def opened : List ClassFrame → Nat
  | [] => 0
  | .opened _ _ :: below => opened below + 1
  | .operation _ _ :: below => opened below

/-- All items in front of the open brackets are plain. -/
def PlainFrames : List ClassFrame → Prop
  | [] => True
  | .opened before _ :: below =>
    (below ≠ [] → ∀ i ∈ before, i.Plain (decide (1 < opened below))) ∧ PlainFrames below
  | .operation _ left :: below => left.Plain (decide (1 < opened below)) ∧ PlainFrames below

/-- All items that were read inside brackets are plain. -/
structure ClassState.Plain (st : ClassState) : Prop where
  items : st.stack ≠ [] → ∀ i ∈ st.items, i.Plain (decide (1 < opened st.stack))
  frames : PlainFrames st.stack

theorem ClassState.opened_close (st : ClassState) : opened st.close.2 = opened st.stack := by
  unfold close
  split
  · rename_i heq
    rw [heq]
    rfl
  · rfl

theorem ClassState.plain_of_close {st : ClassState}
    (hset : st.close.1.Plain (decide (1 < opened st.close.2))) (hframes : PlainFrames st.close.2) :
    st.Plain := by
  have hitems : ClassItem.AllPlain (decide (1 < opened st.stack)) st.items.reverse →
      st.stack ≠ [] → ∀ i ∈ st.items, i.Plain (decide (1 < opened st.stack)) := fun h _ i hi =>
    ClassItem.allPlain_iff.mp h i (List.mem_reverse.mpr hi)
  rw [opened_close] at hset
  unfold close at hset hframes
  split at hset
  · rename_i heq
    rw [heq] at hframes
    refine ⟨hitems hset.2, ?_⟩
    rw [heq] at hset ⊢
    exact ⟨hset.1, hframes⟩
  · rename_i hoperation
    split at hframes
    · rename_i heq
      exact absurd heq (hoperation _ _ _)
    · exact ⟨hitems hset, hframes⟩

/-! ## One token inside brackets -/

/-- The reader takes one token inside brackets. -/
inductive ReadsInClass (st : ClassState) : List Char → ClassState → List Char → Prop
  | ascii {item : ClassItem} {rest behind : List Char} (hne : st.stack ≠ [])
    (h : readAsciiClass? ('[' :: rest) = some (item, behind)) :
    ReadsInClass st ('[' :: rest) ⟨st.stack, item :: st.items⟩ behind
  | opening {st' : ClassState} {rest behind : List Char}
    (h : openClass false st ('[' :: rest) = some (st', behind)) :
    ReadsInClass st ('[' :: rest) st' behind
  | closing {before : List ClassItem} {negated : Bool} {below : List ClassFrame}
    (h : st.close.2 = .opened before negated :: below) (hne : below ≠ []) (rest : List Char) :
    ReadsInClass st (']' :: rest) ⟨below, .bracketed negated st.close.1 :: before⟩ rest
  | operation {c : Char} (hc : c ∈ ['&', '-', '~']) (op : SetOperation) (rest : List Char) :
    ReadsInClass st (c :: c :: rest) (st.operate op) rest
  | item {item : ClassItem} {s rest : List Char} (h : readClassRange false s = some (item, rest))
    (hs : ¬ AtBracket s) : ReadsInClass st s ⟨st.stack, item :: st.items⟩ rest

/-- **A step of the reader** of a class is its last bracket or one token. -/
theorem readClass_cases {fuel : Nat} {st : ClassState} {s rest : List Char} {p : Pattern}
    (h : readClass false (fuel + 1) st s = some (p, rest)) :
    (∃ before negated, s = ']' :: rest ∧ st.close.2 = [.opened before negated]
        ∧ p = .bracketed negated st.close.1)
      ∨ ∃ st' s', ReadsInClass st s st' s' ∧ readClass false fuel st' s' = some (p, rest) := by
  unfold readClass at h
  simp only [skip_false] at h
  split at h
  · cases h
  · right
    split at h
    · rename_i hascii
      have hne : st.stack ≠ [] := by
        intro hnil
        rw [hnil] at hascii
        cases hascii
      rw [if_neg (by simpa using hne)] at hascii
      exact ⟨_, _, .ascii hne hascii, h⟩
    · split at h
      · exact ⟨_, _, .opening ‹_›, h⟩
      · cases h
  · split at h
    · rename_i before negated below hclose
      split at h
      · rename_i hempty
        rw [List.isEmpty_iff.mp hempty] at hclose
        cases h
        exact .inl ⟨before, negated, rfl, hclose, rfl⟩
      · rename_i hempty
        exact .inr ⟨_, _, .closing hclose (fun heq => hempty (List.isEmpty_iff.mpr heq)) _, h⟩
    · cases h
  · exact .inr ⟨_, _, .operation (by decide) _ _, h⟩
  · exact .inr ⟨_, _, .operation (by decide) _ _, h⟩
  · exact .inr ⟨_, _, .operation (by decide) _ _, h⟩
  · rename_i hopen hclose _ _ _
    split at h
    · refine .inr ⟨_, _, .item ‹_› ?_, h⟩
      rintro ⟨m, rfl | rfl⟩
      · exact hopen _ rfl
      · exact hclose _ rfl
    · cases h

/-- What is read as a class is brackets. -/
theorem bracketed_of_readClass {fuel : Nat} : ∀ {st : ClassState} {s rest : List Char}
    {p : Pattern}, readClass false fuel st s = some (p, rest) →
    ∃ negated set, p = .bracketed negated set := by
  induction fuel with
  | zero => exact fun h => nomatch h
  | succ fuel ih =>
    intro st s rest p h
    obtain ⟨_, negated, _, _, hp⟩ | ⟨_, _, _, hread⟩ := readClass_cases h
    · exact ⟨negated, _, hp⟩
    · exact ih hread

theorem plain_of_readsInClass {st st' : ClassState} {s s' : List Char}
    (h : ReadsInClass st s st' s') (hplain : st'.Plain) : st.Plain := by
  cases h with
  | ascii | item =>
    exact ⟨fun hne i hi => hplain.items hne i (List.mem_cons_of_mem _ hi), hplain.frames⟩
  | opening h =>
    obtain ⟨⟨negated, hstack⟩, _⟩ := openClass_eq_some 0 h
    have hframes := hplain.frames
    rw [hstack] at hframes
    exact ⟨hframes.1, hframes.2⟩
  | closing h hne =>
    have hitems := hplain.items hne
    rw [List.forall_mem_cons] at hitems
    refine ClassState.plain_of_close (ClassSet.Plain.outside hitems.1 _) ?_
    rw [h]
    exact ⟨fun _ => hitems.2, hplain.frames⟩
  | operation => exact ClassState.plain_of_close hplain.frames.1 hplain.frames.2

/-- **All items of a plain class are plain** from the start. -/
theorem plain_of_readClass {fuel : Nat} : ∀ {st : ClassState} {s rest : List Char} {p : Pattern},
    readClass false fuel st s = some (p, rest) → p.PlainNode → st.Plain := by
  induction fuel with
  | zero => exact fun h => nomatch h
  | succ fuel ih =>
    intro st s rest p h hp
    obtain ⟨before, negated, _, hclose, rfl⟩ | ⟨_, _, hreads, hread⟩ := readClass_cases h
    · refine ClassState.plain_of_close ?_ ?_
      · rw [hclose]
        exact hp
      · rw [hclose]
        exact ⟨fun hne => absurd rfl hne, trivial⟩
    · exact plain_of_readsInClass hreads (ih hread hp)

/-! ## The count of brackets -/

/-- The outermost frame is a bracket. -/
def Grounded (stack : List ClassFrame) : Prop :=
  ∃ above before negated, stack = above ++ [.opened before negated]

theorem Grounded.opened_pos {stack : List ClassFrame} (h : Grounded stack) : 0 < opened stack := by
  obtain ⟨above, before, negated, rfl⟩ := h
  induction above with
  | nil => exact Nat.one_pos
  | cons frame above ih =>
    cases frame with
    | opened _ _ => exact Nat.succ_pos _
    | operation _ _ => exact ih

theorem Grounded.ne_nil {stack : List ClassFrame} (h : Grounded stack) : stack ≠ [] := by
  rintro rfl
  exact absurd h.opened_pos (Nat.lt_irrefl 0)

theorem Grounded.below {frame : ClassFrame} {below : List ClassFrame}
    (h : Grounded (frame :: below)) (hne : below ≠ []) : Grounded below := by
  obtain ⟨above, before, negated, heq⟩ := h
  cases above with
  | nil => exact absurd (List.cons.inj heq).2 hne
  | cons _ above => exact ⟨above, before, negated, (List.cons.inj heq).2⟩

theorem Grounded.cons {stack : List ClassFrame} (h : Grounded stack) (frame : ClassFrame) :
    Grounded (frame :: stack) := by
  obtain ⟨above, before, negated, rfl⟩ := h
  exact ⟨frame :: above, before, negated, rfl⟩

theorem Grounded.close {st : ClassState} (h : Grounded st.stack) : Grounded st.close.2 := by
  unfold ClassState.close
  split
  · rename_i heq
    rw [heq] at h
    refine h.below ?_
    rintro rfl
    obtain ⟨above, before, negated, hlast⟩ := h
    -- an operation is no bracket
    rcases above with _ | ⟨_, above⟩
    · cases hlast
    · cases above <;> cases hlast
  · exact h

/-- **The count of brackets keeps step with the reader.** -/
theorem skipBrackets_of_readsInClass {st st' : ClassState} {s s' : List Char}
    (h : ReadsInClass st s st' s') (hplain : st'.Plain) (hground : Grounded st.stack) :
    Grounded st'.stack
      ∧ skipBrackets (opened st.stack) s = skipBrackets (opened st'.stack) s' := by
  have hpos := hground.opened_pos
  cases h with
  | ascii _ h => exact ⟨hground, skipBrackets_ascii hpos h⟩
  | opening h =>
    obtain ⟨⟨negated, hstack⟩, _, hskip⟩ := openClass_eq_some (opened st.stack + 1) h
    have hground' : Grounded st'.stack := hstack ▸ hground.cons _
    have hopened : opened st'.stack = opened st.stack + 1 := by
      rw [hstack]
      rfl
    refine ⟨hground', ?_⟩
    rw [skipBrackets_open, hopened]
    rcases hskip with hskip | hbracket
    · exact hskip
    · -- a closing bracket in front of a bracket inside brackets is not plain
      have hitem := hplain.items hground'.ne_nil _ hbracket
      rw [hopened] at hitem
      exact absurd rfl (hitem (decide_eq_true (by omega)))
  | @closing before negated below h hne =>
    have hopened : opened st.stack = opened below + 1 := by
      rw [← st.opened_close, h]
      rfl
    have hground' : Grounded below := Grounded.below (h ▸ hground.close) hne
    refine ⟨hground', ?_⟩
    rw [hopened]
    exact skipBrackets_close hground'.opened_pos
  | @operation c hc op =>
    have hopened : opened (st.operate op).stack = opened st.stack := st.opened_close
    have hchar : c ≠ '\\' ∧ c ≠ '[' ∧ c ≠ ']' := by
      simp only [List.mem_cons, List.not_mem_nil, or_false] at hc
      rcases hc with rfl | rfl | rfl <;> decide
    refine ⟨hground.close.cons _, ?_⟩
    rw [skipBrackets_char hchar.1 hchar.2.1 hchar.2.2,
      skipBrackets_char hchar.1 hchar.2.1 hchar.2.2, hopened]
  | item h hs =>
    have hitems := hplain.items hground.ne_nil
    rw [List.forall_mem_cons] at hitems
    exact ⟨hground, skipBrackets_item h hitems.1 hs⟩

/-- **A class ends where the count of its brackets ends.** -/
theorem skipBrackets_of_readClass {fuel : Nat} : ∀ {st : ClassState} {s rest : List Char}
    {p : Pattern}, readClass false fuel st s = some (p, rest) → p.PlainNode → Grounded st.stack →
    skipBrackets (opened st.stack) s = rest := by
  induction fuel with
  | zero => exact fun h => nomatch h
  | succ fuel ih =>
    intro st s rest p h hp hground
    obtain ⟨before, negated, rfl, hclose, _⟩ | ⟨st', s', hreads, hread⟩ := readClass_cases h
    · rw [← st.opened_close, hclose]
      exact skipBrackets_last
    · obtain ⟨hground', hskip⟩ :=
        skipBrackets_of_readsInClass hreads (plain_of_readClass hread hp) hground
      exact hskip.trans (ih hread hp hground')

/-- **A class that is read is skipped.** -/
theorem skipClass_of_readClass {fuel : Nat} {s : List Char} {p : Pattern}
    (h : readClass false fuel ⟨[], []⟩ ('[' :: s) = some (p, rest)) (hp : p.PlainNode) :
    skipClass s = rest := by
  cases fuel with
  | zero => cases h
  | succ fuel =>
    unfold readClass at h
    simp only [skip_false, List.isEmpty_nil, if_true] at h
    split at h
    · rename_i st' behind hopen
      obtain ⟨⟨negated, hstack⟩, hskip, _⟩ := openClass_eq_some 1 hopen
      have hread := skipBrackets_of_readClass h hp ⟨[], [], negated, hstack⟩
      rw [hstack] at hread
      exact hskip.trans hread
    · cases h

end Pattern

end ValueSchema
