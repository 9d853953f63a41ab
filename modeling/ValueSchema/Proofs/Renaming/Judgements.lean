/-
Judging under other names.

A judge reads identities to tell which containers are one, and writes identities that are the names
of its places. So a renaming that gives no two identities one name, and that carries what is built
at one site to what is built at another one, carries a whole judgement: the renamed value is judged
at the other site as the value is at the first one, with the renamed output, and with the same
issues up to the identities in them. This is one more likeness of judgements. What it asks of a
node is that its constants keep their names and that the code that it calls reads names as judges
do, apart from those of a heap that the renaming leaves alone.
-/
import ValueSchema.Proofs.Origins.Values
import ValueSchema.Proofs.Renaming.Values

set_option autoImplicit false

namespace ValueSchema

open List (Forall₂)

variable {H : Heap} {f : Ident → Ident} {s s' : Site}

/-! ## Renamings of sites -/

/-- A renaming carries what is built at one site, or further inside, to another site. -/
def Site.Carried (f : Ident → Ident) (s s' : Site) : Prop :=
  ∀ place : Place, f (.made s.run (place ++ s.place)) = .made s'.run (place ++ s'.place)

namespace Site.Carried

theorem ident (h : s.Carried f s') : f s.ident = s'.ident := h []

theorem child (h : s.Carried f s') (n : Nat) : (s.child n).Carried f (s'.child n) := by
  intro place
  have hinside := h (place ++ [n])
  rw [List.append_assoc, List.append_assoc] at hinside
  exact hinside

end Site.Carried

/-- No two identities get one name, and what lies in a heap keeps its name. -/
structure Ident.Renaming (H : Heap) (f : Ident → Ident) : Prop where
  injective : Function.Injective f
  kept : ∀ id v, H id = some v → f id = id

theorem Value.MadeOf.rename_eq_self {v : Value} (hv : v.MadeOf H.Holds)
    (hf : Ident.Renaming H f) : v.rename f = v := by
  refine Value.rename_eq_self v fun k w id hw hid => ?_
  have hcomposite : w.isComposite = true := by rw [Value.isComposite, hid, Option.isSome_some]
  obtain ⟨id', hid', hheld⟩ := (hv k w hw).2 hcomposite
  rw [hid] at hid'
  cases hid'
  exact hf.kept id w hheld

/-! ## Merging -/

namespace Intersection

section

variable (hf : Function.Injective f)
include hf

theorem agree_rename (a b : Value) : agree (a.rename f) (b.rename f) = agree a b := by
  rw [agree, agree, Value.equal_rename hf, Value.sameValueZero_rename hf]

/-- Merging a value into any other one can be renamed. -/
def MergesRenamed (f : Ident → Ident) (b : Value) : Prop :=
  ∀ ⦃s s' : Site⦄ (a : Value), s.Carried f s' →
    merge s' (a.rename f) (b.rename f) = (merge s a b).map (Value.rename f)

omit hf in
theorem mergeFields_rename {left right : List (String × Value)}
    (h : ∀ e ∈ right, MergesRenamed f e.2) (hs : s.Carried f s') :
    ∀ (n : Nat) (merged : List (String × Value)),
      mergeFields s' (Keyed.mapValues (Value.rename f) left) n
          (Keyed.mapValues (Value.rename f) merged) (Keyed.mapValues (Value.rename f) right)
        = (mergeFields s left n merged right).map (Keyed.mapValues (Value.rename f)) := by
  induction right with
  | nil => exact fun _ _ => rfl
  | cons e rest ih =>
    obtain ⟨key, v⟩ := e
    intro n merged
    rw [List.forall_mem_cons] at h
    have hrest := fun w => ih h.2 (n + 1) (Keyed.insert key w merged)
    simp only [← Value.insert_rename] at hrest
    show mergeFields s' _ n _ ((key, v.rename f) :: Keyed.mapValues (Value.rename f) rest) = _
    rw [mergeFields, mergeFields, Value.find?_rename]
    -- a key that is on the right only is written as it is
    cases Keyed.find? key left with
    | none => exact hrest v
    | some present =>
      rw [Option.map_some]
      dsimp only
      rw [h.1 present (hs.child n)]
      cases merge (s.child n) present v with
      | none => rfl
      | some both => exact hrest both

omit hf in
theorem mergeItems_rename {right : List Value} (h : ∀ v ∈ right, MergesRenamed f v)
    (hs : s.Carried f s') : ∀ (n : Nat) (left : List Value),
      mergeItems s' n (left.map (Value.rename f)) (right.map (Value.rename f))
        = (mergeItems s n left right).map (List.map (Value.rename f)) := by
  induction right with
  | nil => exact fun _ _ => rfl
  | cons v rest ih =>
    intro n left
    rw [List.forall_mem_cons] at h
    cases left with
    | nil => rfl
    | cons present others =>
      rw [List.map_cons, List.map_cons, mergeItems, mergeItems, h.1 present (hs.child n),
        ih h.2 (n + 1) others]
      cases merge (s.child n) present v with
      | none => rfl
      | some both => cases mergeItems s (n + 1) others rest <;> rfl

/-- **Merges of renamed values** are renamed merges. -/
theorem merge_rename (b : Value) : MergesRenamed f b := by
  induction b using Value.induction with
  | node b ih =>
    intro s s' a hs
    have hagree := agree_rename hf a b
    by_cases h : agree a b = true
    · rw [merge_of_agree h, merge_of_agree (hagree.trans h), Option.map_some]
    rw [Bool.not_eq_true] at h
    rw [h] at hagree
    -- what does not agree is merged part by part, or not at all
    cases b with
    | object id' right =>
      cases a with
      | object id left =>
        have hfields := @mergeFields_rename f s s' left right
          (Value.forall_mem_parts_object.mp ih) hs 0 left
        rw [Value.rename_object, Value.rename_object] at hagree ⊢
        simp only [merge, h, hagree, Bool.false_eq_true, if_false, hfields, Option.map_map,
          Function.comp_def, Value.rename_object, hs.ident]
      | _ =>
        simp only [Value.rename_object] at hagree ⊢
        simp only [merge, h, Bool.false_eq_true, if_false, Option.map_none]
        simp only [Value.rename] at hagree ⊢
        simp only [hagree, Bool.false_eq_true, if_false]
    | array id' right =>
      cases a with
      | array id left =>
        have hitems := @mergeItems_rename f s s' right ih hs 0 left
        rw [Value.rename_array, Value.rename_array] at hagree ⊢
        simp only [merge, h, hagree, Bool.false_eq_true, if_false, hitems, List.length_map]
        split
        · simp only [Option.map_map, Function.comp_def, Value.rename_array, hs.ident]
        · rfl
      | _ =>
        simp only [Value.rename_array] at hagree ⊢
        simp only [merge, h, Bool.false_eq_true, if_false, Option.map_none]
        simp only [Value.rename] at hagree ⊢
        simp only [hagree, Bool.false_eq_true, if_false]
    | _ =>
      simp only [Value.rename] at hagree ⊢
      simp only [merge, h, hagree, Bool.false_eq_true, if_false, Option.map_none]

theorem mergeFrom_rename (hs : s.Carried f s') (rest : List Value) : ∀ (n : Nat) (gathered : Value),
    mergeFrom s' n (gathered.rename f) (rest.map (Value.rename f))
      = (mergeFrom s n gathered rest).map (Value.rename f) := by
  induction rest with
  | nil => exact fun _ _ => rfl
  | cons v rest ih =>
    intro n gathered
    rw [List.map_cons, mergeFrom, mergeFrom, merge_rename hf v gathered (hs.child n)]
    cases merge (s.child n) gathered v with
    | none => rfl
    | some both => exact ih (n + 1) both

theorem mergeAll_rename (hs : s.Carried f s') (outputs : List Value) :
    mergeAll s' (outputs.map (Value.rename f)) = (mergeAll s outputs).map (Value.rename f) := by
  cases outputs with
  | nil => rfl
  | cons first rest => exact mergeFrom_rename hf hs rest 0 first

end

end Intersection

/-! ## Issues -/

/-- An issue with all identities in it struck out. -/
def Issue.anonymous (i : Issue) : Issue :=
  ⟨i.path, i.code, i.message, i.received.map Value.anonymous, i.expected,
    Keyed.mapValues Value.anonymous i.details⟩

/-- A report with all identities in it struck out. -/
def Report.anonymous : Report → Report
  | .issue i => .issue i.anonymous
  | r => r

theorem Issues.anonymous_overrideMessage (path text : String) (e : Issues) :
    (e.overrideMessage path text).toList.map Issue.anonymous
      = (e.toList.map Issue.anonymous).map fun i =>
        if i.path = path then i.withMessage text else i := by
  rw [overrideMessage, toList_map, List.map_map, List.map_map]
  refine List.map_congr_left fun i _ => ?_
  show Issue.anonymous (if i.path = path then _ else _) = if i.path = path then _ else _
  split <;> rfl

theorem Report.anonymous_toIssue (c : Context) (r : Report) :
    (r.toIssue c).anonymous = r.anonymous.toIssue c := by
  cases r <;> rfl

/-! ## Code of a caller's -/

/-- The code that a modifier calls may know the names in a heap. Other names it reads only to tell
which containers are one, and it names what it builds after its site. -/
def Modifier.IgnoresNames (H : Heap) : Modifier → Prop
  | .refine check _ => ∀ f : Ident → Ident, Ident.Renaming H f → ∀ v, check (v.rename f) = check v
  | .superRefine refiner => ∀ f : Ident → Ident, Ident.Renaming H f → ∀ path v,
    (refiner path (v.rename f)).1.map Report.anonymous
        = (refiner path v).1.map Report.anonymous
      ∧ (refiner path (v.rename f)).2 = (refiner path v).2
  | .transform mapper => ∀ f : Ident → Ident, Ident.Renaming H f → ∀ s s' : Site, s.Carried f s' →
    ∀ v, Except.Like Eq (Except.Like Eq fun a b => a.rename f = b) (mapper s v)
      (mapper s' (v.rename f))
  | .preprocess mapper => ∀ f : Ident → Ident, Ident.Renaming H f → ∀ s s' : Site, s.Carried f s' →
    ∀ v, Except.Like Eq (Except.Like Eq fun a b => a.rename f = b) (mapper s v)
      (mapper s' (v.rename f))
  | _ => True

namespace Schema

/-- The code that a node calls ignores names outside of a heap. -/
def IgnoresNames (H : Heap) : Schema → Prop
  | modified m _ => m.IgnoresNames H
  | _ => True

/-- The values that a node holds: those that it compares with, and those that it puts in the place
of others. -/
def constants : Schema → List Value
  | literal l => [l]
  | enumeration entries => entries.map Prod.snd
  | tagged discriminator options => (Tagged.literals discriminator options).filterMap id
  | modified (.default standard) _ => [standard]
  | modified (.fallback replacement) _ => [replacement]
  | _ => []

end Schema

/-! ## The likeness -/

namespace Likeness

/-- A value and the renamed value, at a site and where the renaming carries it. -/
def renamed (f : Ident → Ident) : Likeness where
  site s s' := s.Carried f s'
  context := Eq
  input v w := v.rename f = w
  output v w := v.rename f = w
  issues l l' := l.map Issue.anonymous = l'.map Issue.anonymous
  site_child := fun n hs => hs.child n
  context_depth := fun h => congrArg Context.depth h
  context_childKey := Context.childKey_congr
  context_childIndex := Context.childIndex_congr
  context_atKey := Context.atKey_congr
  input_plain := fun h => Value.rename_of_plain h
  input_parts := by
    rintro v _ rfl
    cases v with
    | array id items =>
      rw [Value.rename_array]
      exact .array (List.forall₂_map_right_iff.mpr (List.forall₂_same.mpr fun _ _ => rfl))
    | object id fields =>
      rw [Value.rename_object]
      exact .object (List.forall₂_map_right_iff.mpr (List.forall₂_same.mpr fun _ _ => ⟨rfl, rfl⟩))
    | map id entries =>
      rw [Value.rename_map]
      exact .map (List.forall₂_map_right_iff.mpr (List.forall₂_same.mpr fun _ _ => ⟨rfl, rfl⟩))
    | set id items =>
      rw [Value.rename_set]
      exact .set (List.forall₂_map_right_iff.mpr (List.forall₂_same.mpr fun _ _ => rfl))
    | _ => exact .plain rfl
  output_of_input := id
  output_undefined := by
    rintro v _ rfl
    exact (Value.isUndefined_rename v).symm
  output_string := by
    rintro v _ rfl
    exact (Value.string?_rename v).symm
  output_array := fun hs h => by
    rw [Value.rename_array, hs.ident, Value.map_rename_eq h]
  output_object := fun hs h => by
    rw [Value.rename_object, hs.ident, Value.mapValues_rename_eq h]
  output_map := fun hs h => by
    rw [Value.rename_map, hs.ident, Value.map_renameEntry_eq h]
  output_set := fun hs h => by
    rw [Value.rename_set, hs.ident, Value.map_rename_eq h]
  issues_nil := rfl
  issues_append := fun h h' => by rw [List.map_append, List.map_append, h, h']
  issues_eq_nil := fun h => by
    rw [← List.map_eq_nil_iff (f := Issue.anonymous), h, List.map_eq_nil_iff]
  issues_here := fun _ hc => hc ▸ rfl
  issues_received := by
    rintro i i' v _ hi rfl
    have hcopy : v.anonymous = (v.rename f).anonymous := Value.copies_rename v
    injection hi with hi
    injection hi with hpath hcode hmessage _ hexpected hdetails
    simp only [List.map_cons, List.map_nil, Issue.anonymous, Issue.withReceived, Option.map_some,
      hpath, hcode, hmessage, hexpected, hdetails, hcopy]
  issues_override := fun text hc h => by
    rw [hc, Issues.anonymous_overrideMessage, Issues.anonymous_overrideMessage, h]

theorem renamed_rooted : (renamed f).Rooted := fun _ => rfl

/-! ## What nodes ask for -/

section

variable {c c' : Context} {v w : Value}

/-- A list of values refuses a value and the renamed value alike. -/
theorem renamed_choice (expected : String) (hc : c = c') (hv : v.rename f = w) :
    (renamed f).verdict (Choice.reject expected c v) (Choice.reject expected c' w) := by
  subst hc hv
  have hcopy : v.anonymous = (v.rename f).anonymous := Value.copies_rename v
  refine verdict_reject ?_
  simp only [renamed, List.map_cons, List.map_nil, Issue.anonymous, Issue.withReceived,
    Option.map_some, Value.display_rename, hcopy]

theorem renamed_words (options : List String) :
    (renamed f).Leaf (Words.run options) (Words.accepts options) := by
  intro c c' v w hc hv
  have haccepts : Words.accepts options v = Words.accepts options w := by
    subst hv
    cases v <;> rfl
  refine ⟨?_, haccepts⟩
  unfold Words.run
  rw [haccepts]
  split
  · exact .ok hv
  · exact renamed_choice _ hc hv

theorem renamed_literal (hf : Function.Injective f) {l : Value} (hl : l.rename f = l) :
    (renamed f).Leaf (Literal.run l) (Literal.accepts l) := by
  intro c c' v w hc hv
  have hsame : l.sameValueZero v = l.sameValueZero w := by
    rw [← hv, ← Value.sameValueZero_rename hf l v, hl]
  refine ⟨?_, hsame⟩
  unfold Literal.run
  rw [hsame, show c = c' from hc]
  split
  · exact .ok hv
  · exact verdict_reject ((renamed f).issues_received rfl hv)

theorem renamed_enumeration (hf : Function.Injective f) {entries : List (String × Value)}
    (he : ∀ l ∈ entries.map Prod.snd, l.rename f = l) :
    (renamed f).Leaf (Enumeration.run entries) (Enumeration.accepts entries) := by
  intro c c' v w hc hv
  have haccepts : Enumeration.accepts entries v = Enumeration.accepts entries w := by
    unfold Enumeration.accepts
    rw [Bool.eq_iff_iff, List.any_eq_true, List.any_eq_true]
    refine exists_congr fun e => and_congr_right fun hmem => ?_
    rw [← hv, ← Value.sameValueZero_rename hf e.2 v, he e.2 (List.mem_map_of_mem hmem)]
  refine ⟨?_, haccepts⟩
  unfold Enumeration.run
  rw [haccepts]
  split
  · exact .ok hv
  · exact renamed_choice _ hc hv

/-- A tag selects the option that the renamed tag selects. -/
theorem renamed_keepsPlaces (hf : Function.Injective f) {literals : List (Option Value)}
    (hl : ∀ l ∈ literals.filterMap id, l.rename f = l) : (renamed f).KeepsPlaces literals := by
  rintro v _ rfl
  have hfound : ∀ l ∈ literals.filterMap id, (l.key == v.key) = (l.key == (v.rename f).key) := by
    intro l hmem
    rw [Bool.eq_iff_iff, beq_iff_eq, beq_iff_eq, Value.key_rename]
    nth_rewrite 2 [← hl l hmem]
    rw [Value.key_rename, (Value.Key.rename_injective hf).eq_iff]
  unfold Tagged.placeOf?
  induction literals with
  | nil => rfl
  | cons o rest ih =>
    cases o with
    | none => simp only [List.findIdx?_cons, Bool.false_eq_true, if_false, ih hl hfound]
    | some l =>
      have hsame := hfound l List.mem_cons_self
      have hrest := ih (fun x hx => hl x (List.mem_cons_of_mem l hx)) fun x hx =>
        hfound x (List.mem_cons_of_mem l hx)
      simp only [List.findIdx?_cons, hsame, hrest]

theorem renamed_refiner {refiner : Refiner} (hf : Ident.Renaming H f)
    (h : (Modifier.superRefine refiner).IgnoresNames H) :
    (renamed f).Checks fun c v => Verdict.ofRefiner refiner c v := by
  rintro c _ v _ rfl rfl
  obtain ⟨hreports, hanswer⟩ := h f hf c.path v
  have hissues : ((refiner c.path (v.rename f)).1.map (Report.toIssue c)).map Issue.anonymous
      = ((refiner c.path v).1.map (Report.toIssue c)).map Issue.anonymous := by
    simp only [List.map_map, Function.comp_def, Report.anonymous_toIssue]
    simpa only [List.map_map, Function.comp_def]
      using congrArg (List.map (Report.toIssue c)) hreports
  simp only [Verdict.ofRefiner, hanswer]
  generalize (refiner c.path v).1.map (Report.toIssue c) = issues at hissues
  generalize (refiner c.path (v.rename f)).1.map (Report.toIssue c) = issues' at hissues
  -- both sides reported something, or the decision counts on both
  cases issues with
  | nil =>
    obtain rfl := List.map_eq_nil_iff.mp hissues
    exact ofCheck_like _ _ rfl rfl
  | cons i rest =>
    cases issues' with
    | nil => cases hissues
    | cons i' rest' => exact .error hissues.symm

theorem renamed_modifies {m : Modifier} (hf : Ident.Renaming H f) (h : m.IgnoresNames H)
    (hdefault : ∀ standard, m = .default standard → standard.rename f = standard)
    (hfallback : ∀ replacement, m = .fallback replacement → replacement.rename f = replacement) :
    (renamed f).Modifies .sync m := by
  cases m with
  | refine check text =>
    rintro c c' v _ hc rfl
    show (renamed f).verdict (Verdict.ofCheck (check v) text c v)
      (Verdict.ofCheck (check (v.rename f)) text c' (v.rename f))
    rw [h f hf v]
    exact ofCheck_like (check v) text hc rfl
  | superRefine refiner => exact renamed_refiner hf h
  | transform mapper =>
    rintro s s' v _ hs rfl
    exact h f hf s s' hs v
  | preprocess mapper =>
    rintro s s' v _ hs rfl
    exact h f hf s s' hs v
  | default standard => exact hdefault standard rfl
  | fallback replacement => exact hfallback replacement rfl
  | refineAsync _ _ => exact fun h => nomatch h
  | transformAsync _ => exact fun h => nomatch h
  | preprocessAsync _ => exact fun h => nomatch h
  | _ => exact trivial

end

/-- A node whose code ignores names, and whose constants keep theirs, can be renamed. -/
theorem renamed_admits {schema : Schema} (hf : Ident.Renaming H f) (h : schema.IgnoresNames H)
    (hconstants : ∀ l ∈ schema.constants, l.rename f = l) : (renamed f).Admits .sync schema := by
  cases schema with
  | literal l => exact renamed_literal hf.injective (hconstants l List.mem_cons_self)
  | words options => exact renamed_words options
  | enumeration entries => exact renamed_enumeration hf.injective hconstants
  | array element bounds =>
    intro _ items others hitems
    rw [← Value.map_rename_eq hitems, Value.firstRepeat?_rename hf.injective]
  | set element bounds =>
    rintro v _ w _ rfl rfl
    exact (Value.sameValueZero_rename hf.injective v w).symm
  | tagged discriminator options => exact renamed_keepsPlaces hf.injective hconstants
  | intersection branches =>
    intro s s' l l' hs hl
    rw [← Value.map_rename_eq hl, Intersection.mergeAll_rename hf.injective hs]
    cases Intersection.mergeAll s l with
    | none => exact .none
    | some out => exact .some rfl
  | pipe first next => exact fun _ _ h => h
  | modified m inner =>
    refine renamed_modifies hf h (fun standard hm => ?_) fun replacement hm => ?_
    · subst hm
      exact hconstants standard List.mem_cons_self
    · subst hm
      exact hconstants replacement List.mem_cons_self
  | _ => exact trivial

/-- **Renamed values are judged alike** at the sites where the renaming carries a judgement. -/
theorem renamed_evaluators {schema : Schema} {family : Family} (hf : Ident.Renaming H f)
    (hs : schema.Every fun t => t.IgnoresNames H ∧ ∀ l ∈ t.constants, l.rename f = l)
    (hfamily : ∀ e ∈ family,
      e.2.Every fun t => t.IgnoresNames H ∧ ∀ l ∈ t.constants, l.rename f = l) (budget : Nat) :
    (renamed f).Evaluators (schema.evaluator .sync (family.resolution .sync budget))
      (schema.evaluator .sync (family.resolution .sync budget)) := by
  have hadmits : ∀ t : Schema,
      t.Every (fun t => t.IgnoresNames H ∧ ∀ l ∈ t.constants, l.rename f = l) →
      t.Every ((renamed f).Admits .sync) :=
    fun _ ht => ht.mono fun _ hnode => renamed_admits hf hnode.1 hnode.2
  have href : ∀ ref, (renamed f).Evaluators (family.resolution .sync budget ref)
      (family.resolution .sync budget ref) :=
    Family.resolution_induction (motive := fun e => (renamed f).Evaluators e e) unresolved_like
      (fun e he _ hresolve => evaluator_like renamed_rooted (hadmits _ (hfamily e he)) hresolve) _
  exact evaluator_like renamed_rooted (hadmits _ hs) href

end Likeness

end ValueSchema
