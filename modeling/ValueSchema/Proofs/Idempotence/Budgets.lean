/-
Unfolding definitions less often.

A judgement of an output unfolds definitions as often as the output is high, which may be less often
than the judgement of the value did. It comes to the same all the same. Which references a pure
schema asks depends on the value and the depth alone, so at a value and a depth the names that come
to something are a set that grows with the budget, and a name that comes in last can do with one
unfolding more than the names before it. As there are only so many names, one run through them is
enough for every level of the value.
-/
import ValueSchema.Proofs.Idempotence.Pure
import Mathlib.Data.Finset.Card

set_option autoImplicit false

namespace ValueSchema

/-! ## Judgements that settle others -/

/-- Where the first judgement comes to something, the second comes to the same there, and, if asked
everywhere, to something at all sites and contexts of this depth. -/
def Settles {α : Type} (everywhere : Prop) (f f' : Site → Context → Option α) (depth : Nat) :
    Prop :=
  ∀ ⦃s : Site⦄ ⦃c : Context⦄ ⦃a : α⦄, c.depth = depth → f s c = some a → f' s c = some a
    ∧ (everywhere → ∀ (s' : Site) (c' : Context), c'.depth = depth → ∃ a', f' s' c' = some a')

namespace Settles

variable {α β γ δ : Type} {everywhere : Prop} {depth below : Nat}
  {f f' : Site → Context → Option α} {g g' : Site → Context → Option β}
  {h h' : Site → Context → Option γ}

/-- An answer that needs no one else. -/
theorem answer (k : Site → Context → α) :
    Settles everywhere (fun s c => some (k s c)) (fun s c => some (k s c)) depth :=
  fun _ _ _ _ ha => ⟨ha, fun _ s' c' _ => ⟨k s' c', rfl⟩⟩

theorem congr (hf : Settles everywhere f f' depth) {k k' : Site → Context → Option α}
    (hk : ∀ s c, c.depth = depth → k s c = f s c)
    (hk' : ∀ s c, c.depth = depth → k' s c = f' s c) : Settles everywhere k k' depth := by
  intro s c a hc ha
  rw [hk s c hc] at ha
  obtain ⟨hsame, hall⟩ := hf hc ha
  refine ⟨(hk' s c hc).trans hsame, fun he s' c' hc' => ?_⟩
  rw [hk' s' c' hc']
  exact hall he s' c' hc'

/-- A refusal needs no one else, either. -/
theorem refused {k k' : Site → Context → Option Verdict} (reason : Context → Issue)
    (hk : ∀ s c, c.depth = depth → k s c = some (Verdict.reject (reason c)))
    (hk' : ∀ s c, c.depth = depth → k' s c = some (Verdict.reject (reason c))) :
    Settles everywhere k k' depth :=
  (answer fun _ c => Verdict.reject (reason c)).congr hk hk'

/-- Parts are asked at other sites and contexts. -/
theorem shift (hf : Settles everywhere f f' below) (site : Site → Site)
    (context : Context → Context) (hdepth : ∀ c, c.depth = depth → (context c).depth = below) :
    Settles everywhere (fun s c => f (site s) (context c)) (fun s c => f' (site s) (context c))
      depth := by
  intro s c a hc ha
  obtain ⟨hsame, hall⟩ := hf (hdepth c hc) ha
  exact ⟨hsame, fun he s' c' hc' => hall he _ _ (hdepth c' hc')⟩

/-- What is built from an answer. -/
theorem build (hf : Settles everywhere f f' depth) (k : Site → Context → α → β) :
    Settles everywhere (fun s c => (f s c).bind fun a => some (k s c a))
      (fun s c => (f' s c).bind fun a => some (k s c a)) depth := by
  intro s c b hc hb
  obtain ⟨a, ha, hb⟩ := Option.bind_eq_some_iff.mp hb
  obtain ⟨hsame, hall⟩ := hf hc ha
  refine ⟨Option.bind_eq_some_iff.mpr ⟨a, hsame, hb⟩, fun he s' c' hc' => ?_⟩
  obtain ⟨a', ha'⟩ := hall he s' c' hc'
  exact ⟨_, Option.bind_eq_some_iff.mpr ⟨a', ha', rfl⟩⟩

/-- Two answers that do not depend on each other. -/
theorem both (hf : Settles everywhere f f' depth) (hg : Settles everywhere g g' depth)
    (k : α → β → γ) :
    Settles everywhere (fun s c => (f s c).bind fun a => (g s c).bind fun b => some (k a b))
      (fun s c => (f' s c).bind fun a => (g' s c).bind fun b => some (k a b)) depth := by
  intro s c r hc hr
  obtain ⟨a, ha, hr⟩ := Option.bind_eq_some_iff.mp hr
  obtain ⟨b, hb, hr⟩ := Option.bind_eq_some_iff.mp hr
  obtain ⟨hsame, hall⟩ := hf hc ha
  obtain ⟨hsame', hall'⟩ := hg hc hb
  refine ⟨?_, fun he s' c' hc' => ?_⟩
  · dsimp only
    rw [hsame, hsame']
    exact hr
  · obtain ⟨a', ha'⟩ := hall he s' c' hc'
    obtain ⟨b', hb'⟩ := hall' he s' c' hc'
    refine ⟨k a' b', ?_⟩
    dsimp only
    rw [ha', hb']
    rfl

theorem three (hf : Settles everywhere f f' depth) (hg : Settles everywhere g g' depth)
    (hh : Settles everywhere h h' depth) (k : α → β → γ → δ) :
    Settles everywhere
      (fun s c => (f s c).bind fun a => (g s c).bind fun b => (h s c).bind fun d => some (k a b d))
      (fun s c => (f' s c).bind fun a => (g' s c).bind fun b => (h' s c).bind fun d =>
        some (k a b d)) depth :=
  (hf.both (hg.both hh Prod.mk) fun a p => k a p.1 p.2).congr
    (fun s c _ => by simp only [Option.bind_assoc, Option.bind_some])
    fun s c _ => by simp only [Option.bind_assoc, Option.bind_some]

end Settles

namespace Value

theorem height_le_items {v : Value} {l : List Value} (h : v ∈ l) : v.height ≤ itemsHeight l := by
  induction l with
  | nil => exact absurd h List.not_mem_nil
  | cons w rest ih =>
    rw [itemsHeight]
    rcases List.mem_cons.mp h with rfl | h
    · exact Nat.le_max_left _ _
    · exact (ih h).trans (Nat.le_max_right _ _)

theorem height_le_fields {f : String × Value} {l : List (String × Value)} (h : f ∈ l) :
    f.2.height ≤ fieldsHeight l := by
  induction l with
  | nil => exact absurd h List.not_mem_nil
  | cons g rest ih =>
    obtain ⟨key, w⟩ := g
    rw [fieldsHeight]
    rcases List.mem_cons.mp h with rfl | h
    · exact Nat.le_max_left _ _
    · exact (ih h).trans (Nat.le_max_right _ _)

theorem height_le_entries {e : Value × Value} {l : List (Value × Value)} (h : e ∈ l) :
    e.1.height ≤ entriesHeight l ∧ e.2.height ≤ entriesHeight l := by
  induction l with
  | nil => exact absurd h List.not_mem_nil
  | cons g rest ih =>
    obtain ⟨k, w⟩ := g
    rw [entriesHeight]
    rcases List.mem_cons.mp h with rfl | h
    · dsimp only
      omega
    · have hle := ih h
      omega

/-- A part is lower than its container. -/
theorem height_lt_of_mem_parts {v x : Value} (h : x ∈ v.parts) : x.height < v.height := by
  cases v with
  | array id items | set id items => exact Nat.lt_succ_of_le (height_le_items h)
  | object id fields =>
    obtain ⟨f, hf, rfl⟩ := List.mem_map.mp h
    exact Nat.lt_succ_of_le (height_le_fields hf)
  | map id entries =>
    simp only [parts, List.mem_flatMap, List.mem_cons, List.not_mem_nil, or_false] at h
    obtain ⟨e, he, h⟩ := h
    obtain ⟨hkey, hvalue⟩ := height_le_entries he
    rcases h with rfl | rfl
    · exact Nat.lt_succ_of_le hkey
    · exact Nat.lt_succ_of_le hvalue
  | _ => exact absurd h List.not_mem_nil

/-- So is a field that is missing. -/
theorem height_fieldOr_lt {id : Ident} {fields : List (String × Value)} {key : String} :
    (fieldOr key fields).height < (object id fields).height := by
  unfold fieldOr
  cases hx : Keyed.find? key fields with
  | none => exact Nat.succ_pos _
  | some x =>
    exact @height_lt_of_mem_parts (object id fields) x
      (List.mem_map_of_mem (Keyed.mem_of_find? hx))

end Value

/-- A judge settles another one on a value at a depth. -/
def Judge.Settles (everywhere : Prop) (j j' : Judge) (v : Value) (depth : Nat) : Prop :=
  ValueSchema.Settles everywhere (fun s c => j s v c) (fun s c => j' s v c) depth

namespace Judge.Settles

variable {σ : Type} {everywhere : Prop} {j j' : σ → Judge} {v : Value} {depth : Nat}

/-! ## Containers -/

theorem judgeFields {input : List (String × Value)} {fields : List (String × σ)}
    (h : ∀ f ∈ fields, Settles everywhere (j f.2) (j' f.2) (fieldOr f.1 input) (depth + 1)) :
    ∀ n : Nat, ValueSchema.Settles everywhere
      (fun s c => Shape.judgeFields s c input n (Keyed.mapValues j fields))
      (fun s c => Shape.judgeFields s c input n (Keyed.mapValues j' fields)) depth := by
  induction fields with
  | nil => exact fun _ => .answer fun _ _ => []
  | cons f rest ih =>
    intro n
    rw [List.forall_mem_cons] at h
    exact (h.1.shift (fun s => s.child n) (fun c => c.childKey f.1) fun c hc =>
      congrArg Nat.succ hc).both (ih h.2 (n + 1)) fun verdict others => (f.1, verdict) :: others

theorem judgeFrom {judgeAt judgeAt' : Nat → Judge} {items : List Value}
    (h : ∀ n, ∀ x ∈ items, Settles everywhere (judgeAt n) (judgeAt' n) x (depth + 1)) :
    ∀ n : Nat, ValueSchema.Settles everywhere
      (fun s c => ValueSchema.judgeFrom judgeAt s c n items)
      (fun s c => ValueSchema.judgeFrom judgeAt' s c n items) depth := by
  induction items with
  | nil => exact fun _ => .answer fun _ _ => []
  | cons x rest ih =>
    intro n
    exact ((h n x List.mem_cons_self).shift (fun s => s.child n) (fun c => c.childIndex n)
      fun c hc => congrArg Nat.succ hc).both
      (ih (fun n y hy => h n y (List.mem_cons_of_mem _ hy)) (n + 1)) List.cons

/-- The key of an entry is judged as a text, which is lower than any container. -/
theorem judgeEntries {key : Option σ} {k k' : Judge} {input : List (String × Value)}
    (hkey : ∀ x ∈ key, ∀ name : String,
      Settles everywhere (j x) (j' x) (.string name) (depth + 1))
    (h : ∀ f ∈ input, Settles everywhere k k' f.2 (depth + 1)) :
    ∀ n : Nat, ValueSchema.Settles everywhere
      (fun s c => Record.judgeEntries (key.map j) k s c n input)
      (fun s c => Record.judgeEntries (key.map j') k' s c n input) depth := by
  induction input with
  | nil => exact fun _ => .answer fun _ _ => []
  | cons f rest ih =>
    obtain ⟨name, x⟩ := f
    intro n
    rw [List.forall_mem_cons] at h
    have hname : ValueSchema.Settles everywhere
        (fun s c => Record.judgeKey (key.map j) ((s.child n).child 0) name (c.childKey name))
        (fun s c => Record.judgeKey (key.map j') ((s.child n).child 0) name (c.childKey name))
        depth := by
      cases key with
      | none => exact .answer _
      | some t =>
        exact (hkey t rfl name).shift (fun s => (s.child n).child 0) (fun c => c.childKey name)
          fun c hc => congrArg Nat.succ hc
    exact hname.three
      (h.1.shift (fun s => (s.child n).child 1) (fun c => c.childKey name) fun c hc =>
        congrArg Nat.succ hc) (ih h.2 (n + 1))
      fun verdict verdict' others => Record.Entry.mk name verdict verdict' :: others

/-- An object refuses, or asks about its fields, whether these are present or not. -/
theorem object {shape : Shape σ} (h : ∀ f ∈ shape.fields, ∀ w : Value, w.height < v.height →
      Settles everywhere (j f.2) (j' f.2) w (depth + 1)) :
    Settles everywhere (shape.map j).judge (shape.map j').judge v depth := by
  cases v with
  | object id xs =>
    cases hguard : Guard.checkObject (Keyed.keys xs) depth shape.limits with
    | error r =>
      refine .refused r.issue ?_ ?_
      all_goals
        rintro s c rfl
        simp only [Shape.judge, Shape.map, guardedFields, hguard]
    | ok _ =>
      refine ((judgeFields (fun f hf => h f hf _ Value.height_fieldOr_lt) 0).build fun s c l =>
        Verdict.finish (Verdict.allIssues (l.map Prod.snd)
          ++ shape.unknown.issues shape.limits c (undeclared shape.keys xs))
          (.object s.ident (Shape.fieldOutputs l
            ++ shape.unknown.kept (undeclared shape.keys xs)))).congr ?_ ?_
      all_goals
        rintro s c rfl
        rw [Shape.judge_of_guarded hguard, Shape.keys_map]
        rfl
  | _ => exact .answer _

/-- The elements of a sequence are lower than the sequence. -/
theorem elements {judgeAt judgeAt' : Nat → Judge} {id : Ident} {xs : List Value}
    (h : ∀ n, ∀ w : Value, w.height < (Value.array id xs).height →
      Settles everywhere (judgeAt n) (judgeAt' n) w (depth + 1)) :
    ValueSchema.Settles everywhere
      (fun s c => (judgeAll judgeAt s c xs).bind fun l =>
        some (Verdict.finish (Verdict.allIssues l) (.array s.ident (Verdict.outputs l))))
      (fun s c => (judgeAll judgeAt' s c xs).bind fun l =>
        some (Verdict.finish (Verdict.allIssues l) (.array s.ident (Verdict.outputs l))))
      depth :=
  (judgeFrom (fun n x hx => h n x (@Value.height_lt_of_mem_parts (.array id xs) x hx)) 0).build _

theorem array (b : ArrayBounds) {k k' : Judge}
    (h : ∀ w : Value, w.height < v.height → Settles everywhere k k' w (depth + 1)) :
    Settles everywhere (b.judge k) (b.judge k') v depth := by
  cases v with
  | array id xs =>
    cases hcheck : Guard.checkDepth depth b.limits with
    | error r =>
      refine .refused r.issue ?_ ?_
      all_goals
        rintro s c rfl
        simp only [ArrayBounds.judge, guardedItems, hcheck]
    | ok _ =>
      have hdepth := Guard.depth_le_of_checkDepth hcheck
      cases hfault : b.fault? xs with
      | some fault =>
        refine .refused (fault.issue "Array") ?_ ?_
        all_goals
          rintro s c rfl
          simp only [ArrayBounds.judge, guardedItems_of_le hdepth, hfault]
      | none =>
        refine (elements fun _ => h).congr ?_ ?_
        all_goals
          rintro s c rfl
          exact ArrayBounds.judge_of_le hdepth hfault
  | _ => exact .answer _

theorem tuple {items : List σ} {rest : Option σ} (limits : Limits)
    (h : ∀ x ∈ items ++ rest.toList, ∀ w : Value, w.height < v.height →
      Settles everywhere (j x) (j' x) w (depth + 1)) :
    Settles everywhere (Tuple.judge (items.map j) (rest.map j) limits)
      (Tuple.judge (items.map j') (rest.map j') limits) v depth := by
  have hat : ∀ n, ∀ w : Value, w.height < v.height →
      Settles everywhere (Tuple.judgeAt (items.map j) (rest.map j) n)
        (Tuple.judgeAt (items.map j') (rest.map j') n) w (depth + 1) := by
    intro n w hw
    simp only [Tuple.judgeAt, Tuple.childAt_map]
    cases hn : Tuple.childAt items rest n with
    | none => exact .answer _
    | some x => exact h x (Tuple.mem_of_childAt hn) w hw
  cases v with
  | array id xs =>
    cases hcheck : Guard.checkDepth depth limits with
    | error r =>
      refine .refused r.issue ?_ ?_
      all_goals
        rintro s c rfl
        simp only [Tuple.judge, guardedItems, hcheck]
    | ok _ =>
      have hdepth := Guard.depth_le_of_checkDepth hcheck
      cases hfault : Tuple.fault? items.length rest.isSome xs.length with
      | some fault =>
        refine .refused (fault.issue "Tuple") ?_ ?_
        all_goals
          rintro s c rfl
          simp only [Tuple.judge, guardedItems_of_le hdepth, List.length_map, Option.isSome_map,
            hfault]
      | none =>
        refine (elements hat).congr ?_ ?_
        all_goals
          rintro s c rfl
          refine Tuple.judge_of_le hdepth ?_
          rw [List.length_map, Option.isSome_map]
          exact hfault
  | _ => exact .answer _

theorem record {key : Option σ} {k k' : Judge} (limits : Limits)
    (hkey : ∀ x ∈ key, ∀ w : Value, w.height < v.height →
      Settles everywhere (j x) (j' x) w (depth + 1))
    (h : ∀ w : Value, w.height < v.height → Settles everywhere k k' w (depth + 1)) :
    Settles everywhere (Record.judge (key.map j) k limits) (Record.judge (key.map j') k' limits) v
      depth := by
  cases v with
  | object id xs =>
    cases hguard : Guard.checkObject (Keyed.keys xs) depth limits with
    | error r =>
      refine .refused r.issue ?_ ?_
      all_goals
        rintro s c rfl
        simp only [Record.judge, guardedFields, hguard]
    | ok _ =>
      refine ((judgeEntries (fun t ht name => hkey t ht _ (Nat.succ_pos _)) fun f hf => h f.2
        (@Value.height_lt_of_mem_parts (.object id xs) f.2 (List.mem_map_of_mem hf))) 0).build
          (fun s _ l => Verdict.finish (l.flatMap Record.Entry.issues)
            (Value.ofEntries s.ident (l.filterMap Record.Entry.output?))) |>.congr ?_ ?_
      all_goals
        rintro s c rfl
        exact Record.judge_of_guarded hguard
  | _ => exact .answer _

theorem judgePairs {key key' value value' : Judge} {entries : List (Value × Value)}
    (hkey : ∀ e ∈ entries, Settles everywhere key key' e.1 (depth + 1))
    (hvalue : ∀ e ∈ entries, Settles everywhere value value' e.2 (depth + 1)) :
    ∀ n : Nat, ValueSchema.Settles everywhere
      (fun s c => Dictionary.judgeEntries key value s c n entries)
      (fun s c => Dictionary.judgeEntries key' value' s c n entries) depth := by
  induction entries with
  | nil => exact fun _ => .answer fun _ _ => []
  | cons e rest ih =>
    intro n
    rw [List.forall_mem_cons] at hkey hvalue
    exact (hkey.1.shift (fun s => (s.child n).child 0) (fun c => (c.childIndex n).atKey "key")
      fun c hc => congrArg Nat.succ hc).three
      (hvalue.1.shift (fun s => (s.child n).child 1) (fun c => (c.childIndex n).atKey "value")
        fun c hc => congrArg Nat.succ hc) (ih hkey.2 hvalue.2 (n + 1))
      fun verdict verdict' others => (verdict, verdict') :: others

theorem map {key key' value value' : Judge} (limits : Limits)
    (hkey : ∀ w : Value, w.height < v.height → Settles everywhere key key' w (depth + 1))
    (hvalue : ∀ w : Value, w.height < v.height → Settles everywhere value value' w (depth + 1)) :
    Settles everywhere (Dictionary.judge key value limits) (Dictionary.judge key' value' limits) v
      depth := by
  cases v with
  | map id xs =>
    cases hcheck : Guard.checkDepth depth limits with
    | error r =>
      refine .refused r.issue ?_ ?_
      all_goals
        rintro s c rfl
        simp only [Dictionary.judge, hcheck]
    | ok _ =>
      have hparts := (@Value.forall_mem_parts_map (fun x => x.height < (Value.map id xs).height)
        id xs).mp fun x hx => Value.height_lt_of_mem_parts hx
      refine ((judgePairs (fun e he => hkey e.1 (hparts e he).1)
        (fun e he => hvalue e.2 (hparts e he).2) 0).build fun s _ l =>
          Verdict.finish (l.flatMap fun e => e.1.issues ++ e.2.issues)
            (.map s.ident (l.filterMap Dictionary.output?))).congr ?_ ?_
      all_goals
        rintro s c rfl
        exact Dictionary.judge_of_le (Guard.depth_le_of_checkDepth hcheck)
  | _ => exact .answer _

/-! ## Choices -/

theorem tagged (discriminator : String) (literals : List (Option Value)) {options : List σ}
    (h : ∀ x ∈ options, Settles everywhere (j x) (j' x) v depth) :
    Settles everywhere (Tagged.judge discriminator literals (options.map j))
      (Tagged.judge discriminator literals (options.map j')) v depth := by
  cases v with
  | object id xs =>
    -- which option is asked does not depend on the options
    have hjudge : ∀ (j : σ → Judge) s c, Tagged.judge discriminator literals (options.map j) s
        (.object id xs) c
          = match (Tagged.select? discriminator literals xs).bind fun n =>
            options[n]?.map (n, ·) with
          | some (n, x) => j x (s.child n) (.object id xs) c
          | none => some (Verdict.reject (Tagged.noMatch discriminator literals c xs)) := by
      intro j s c
      simp only [Tagged.judge, List.getElem?_map]
      cases Tagged.select? discriminator literals xs with
      | none => rfl
      | some n =>
        rw [Option.bind_some, Option.bind_some]
        cases options[n]? <;> rfl
    unfold Settles
    simp only [hjudge]
    cases hselect : (Tagged.select? discriminator literals xs).bind fun n =>
        options[n]?.map (n, ·) with
    | none => exact .answer _
    | some choice =>
      obtain ⟨n, _, hn⟩ := Option.bind_eq_some_iff.mp hselect
      obtain ⟨x, hx, rfl⟩ := Option.map_eq_some_iff.mp hn
      exact (h x (List.mem_of_getElem? hx)).shift (fun s => s.child n) (fun c => c) fun c hc => hc
  | _ => exact .answer _

theorem intersection {branches : List σ}
    (h : ∀ x ∈ branches, Settles everywhere (j x) (j' x) v depth) :
    Settles everywhere (Intersection.judge (branches.map j))
      (Intersection.judge (branches.map j')) v depth := by
  have hbranches : ∀ n : Nat, ValueSchema.Settles everywhere
      (fun s c => Intersection.judgeBranches s v c n (branches.map j))
      (fun s c => Intersection.judgeBranches s v c n (branches.map j')) depth := by
    induction branches with
    | nil => exact fun _ => .answer fun _ _ => []
    | cons x rest ih =>
      intro n
      rw [List.forall_mem_cons] at h
      exact (h.1.shift (fun s => s.child n) id fun c hc => hc).both (ih h.2 (n + 1)) List.cons
  refine ((hbranches 0).build fun s c l => Intersection.combine s c l).congr ?_ ?_
  all_goals
    intro s c _
    exact Option.map_eq_bind

/-! ## Modifiers -/

variable {k k' : Judge}

theorem passing (passes : Value → Bool) (output : Value → Value)
    (h : Settles everywhere k k' v depth) :
    Settles everywhere (fun s v c => if passes v then some (.ok (output v)) else k s v c)
      (fun s v c => if passes v then some (.ok (output v)) else k' s v c) v depth := by
  unfold Settles
  by_cases hp : passes v = true
  · simp only [if_pos hp]
    exact .answer _
  · simp only [if_neg hp]
    exact h

theorem checkOutput (check : Context → Value → Verdict) (h : Settles everywhere k k' v depth) :
    Settles everywhere (k.checkOutput check) (k'.checkOutput check) v depth := by
  refine (h.build fun _ c verdict => verdict.bind (check c)).congr ?_ ?_
  all_goals
    intro s c _
    simp only [Judge.checkOutput, Option.bind_eq_bind]
    congr 1
    funext verdict
    cases verdict <;> rfl

theorem modifier {m : Modifier} (hm : m.Pure) (h : Settles everywhere k k' v depth) :
    Settles everywhere (m.judge .sync k) (m.judge .sync k') v depth := by
  cases m with
  | optional => exact h.passing Value.isUndefined fun _ => .undefined
  | nullable => exact h.passing Value.isNull fun _ => .null
  | nullish => exact h.passing (fun v => v.isUndefined || v.isNull) id
  | message text =>
    refine (h.build fun _ c verdict =>
      verdict.mapError (Issues.overrideMessage c.path text)).congr ?_ ?_
    all_goals
      intro s c _
      exact Option.map_eq_bind
  | refine check text => exact h.checkOutput _
  | _ => exact hm.elim

end Judge.Settles

/-! ## Schemas -/

namespace Schema

variable {everywhere : Prop} {resolve resolve' : Resolution} {v : Value} {depth : Nat} {s : Schema}

/-- **A layer is settled** if its children are: those that judge the value itself at its depth,
those that judge parts one level deeper, on all lower values. -/
theorem layer_settles {child child' : Schema → Evaluator} (hs : s.Pure)
    (href : ∀ ref, (resolve ref).judge.Settles everywhere (resolve' ref).judge v depth)
    (hbare : ∀ t ∈ s.bare, (child t).judge.Settles everywhere (child' t).judge v depth)
    (hheld : ∀ t ∈ s.held, ∀ w : Value, w.height < v.height →
      (child t).judge.Settles everywhere (child' t).judge w (depth + 1)) :
    (s.layer .sync resolve child).judge.Settles everywhere (s.layer .sync resolve' child').judge v
      depth := by
  cases s with
  | text t => exact .answer fun _ c => t.run c v
  | number n => exact .answer fun _ c => n.run c v
  | integer n => exact .answer fun _ c => n.run c v
  | date d => exact .answer fun _ c => d.run c v
  | plain p => exact .answer fun _ c => p.run c v
  | literal l => exact .answer fun _ c => Literal.run l c v
  | words options => exact .answer fun _ c => Words.run options c v
  | enumeration entries => exact .answer fun _ c => Enumeration.run entries c v
  | object shape =>
    exact Judge.Settles.object fun f hf => hheld f.2 (List.mem_map_of_mem hf)
  | array element bounds => exact Judge.Settles.array bounds (hheld element (by simp [held]))
  | tuple items rest limits => exact Judge.Settles.tuple limits hheld
  | record key value limits =>
    exact Judge.Settles.record limits (fun t ht => hheld t (by simp [held, Option.mem_def.mp ht]))
      (hheld value (by simp [held]))
  | map key value limits =>
    exact Judge.Settles.map limits (hheld key (by simp [held])) (hheld value (by simp [held]))
  | tagged discriminator options =>
    exact Judge.Settles.tagged discriminator _ fun o ho =>
      hbare (.object o) (List.mem_map_of_mem ho)
  | intersection branches => exact Judge.Settles.intersection hbare
  | lazy ref => exact href ref
  | modified m inner => exact Judge.Settles.modifier hs (hbare inner (by simp [bare]))
  | _ => exact hs.elim

/-- A pure schema is settled on a value if references are, on the value at its depth and on all
lower values at every depth. -/
theorem evaluator_settles (hs : s.Every Pure) : ∀ (v : Value) (depth : Nat),
    (∀ ref, (resolve ref).judge.Settles everywhere (resolve' ref).judge v depth) →
    (∀ ref, ∀ w : Value, w.height < v.height → ∀ d,
      (resolve ref).judge.Settles everywhere (resolve' ref).judge w d) →
    (s.evaluator .sync resolve).judge.Settles everywhere (s.evaluator .sync resolve').judge v
      depth := by
  induction hs with
  | intro s node _ ih =>
    intro v depth href hlower
    rw [evaluator_eq_layer, evaluator_eq_layer]
    refine layer_settles node href (fun t ht => ?_) fun t ht w hw => ?_
    · exact ih t (mem_children_of_bare ht) v depth href hlower
    · exact ih t (mem_children_of_held ht) w (depth + 1) (fun ref => hlower ref w hw _)
        fun ref x hx => hlower ref x (hx.trans hw)

end Schema

/-! ## Families -/

namespace Family

variable {family : Family} (hfamily : ∀ e ∈ family, e.2.Every Schema.Pure)

include hfamily

/-- Unfolding definitions more often changes no verdict. -/
theorem resolution_extends (budget more : Nat) : ∀ (ref : Reference) (v : Value) (depth : Nat),
    (family.resolution .sync budget ref).judge.Settles False
      (family.resolution .sync (budget + more) ref).judge v depth := by
  induction budget with
  | zero =>
    intro ref v depth s c r _ hr
    cases hr
  | succ budget ih =>
    intro ref v depth
    rw [Nat.add_right_comm]
    unfold resolution
    cases hdef : Keyed.find? ref.name family with
    | none =>
      intro s c r _ hr
      cases hr
    | some definition =>
      exact Schema.evaluator_settles (hfamily _ (Keyed.mem_of_find? hdef)) v depth
        (fun ref => ih ref v depth) fun ref w _ d => ih ref w d

/-- Verdicts under two budgets are one. -/
theorem resolution_unique {budget budget' : Nat} {ref : Reference} {s : Site} {v : Value}
    {c : Context} {r r' : Verdict}
    (hr : (family.resolution .sync budget ref).judge s v c = some r)
    (hr' : (family.resolution .sync budget' ref).judge s v c = some r') : r' = r := by
  obtain ⟨h, _⟩ := resolution_extends hfamily budget budget' ref v c.depth rfl hr
  obtain ⟨h', _⟩ := resolution_extends hfamily budget' budget ref v c.depth rfl hr'
  rw [Nat.add_comm] at h'
  exact Option.some.inj (h'.symm.trans h)

omit hfamily

/-- A name comes to something on a value at a depth. -/
def Answering (family : Family) (budget : Nat) (v : Value) (depth : Nat) (name : String) : Prop :=
  ∃ s c r, c.depth = depth ∧ (family.resolution .sync budget ⟨name, 0⟩).judge s v c = some r

open Classical in
/-- How many names come to something on a value at a depth. -/
noncomputable def answering (family : Family) (budget : Nat) (v : Value) (depth : Nat) : Nat :=
  ((Keyed.keys family).toFinset.filter (family.Answering budget v depth)).card

theorem answering_le_length (family : Family) (budget : Nat) (v : Value) (depth : Nat) :
    family.answering budget v depth ≤ family.length := by
  classical
  have hnames := List.toFinset_card_le (Keyed.keys family)
  have hlen : (Keyed.keys family).length = family.length := List.length_map _
  unfold answering
  exact le_trans (Finset.card_filter_le _ _) (hnames.trans hlen.le)

/-- References of one name mean one thing. -/
theorem resolution_eq_of_name (family : Family) (budget : Nat) (ref : Reference) :
    family.resolution .sync budget ref = family.resolution .sync budget ⟨ref.name, 0⟩ := by
  cases budget <;> rfl

include hfamily

theorem answering_of_before {budget : Nat} {v : Value} {depth : Nat} {name : String}
    (h : family.Answering budget v depth name) : family.Answering (budget + 1) v depth name := by
  obtain ⟨s, c, r, hc, hr⟩ := h
  exact ⟨s, c, r, hc, (resolution_extends hfamily budget 1 ⟨name, 0⟩ v depth hc hr).1⟩

theorem answering_mono (budget : Nat) (v : Value) (depth : Nat) :
    family.answering budget v depth ≤ family.answering (budget + 1) v depth := by
  classical
  refine Finset.card_le_card fun name hname => ?_
  rw [Finset.mem_filter] at hname ⊢
  exact ⟨hname.1, answering_of_before hfamily hname.2⟩

/-- A name that comes in adds to those before. -/
theorem answering_lt {budget : Nat} {v : Value} {depth : Nat} {name : String}
    (hmem : name ∈ Keyed.keys family) (hnow : family.Answering (budget + 1) v depth name)
    (hbefore : ¬ family.Answering budget v depth name) :
    family.answering budget v depth < family.answering (budget + 1) v depth := by
  classical
  refine Finset.card_lt_card ((Finset.ssubset_iff_of_subset fun other ho => ?_).mpr ⟨name, ?_, ?_⟩)
  · rw [Finset.mem_filter] at ho ⊢
    exact ⟨ho.1, answering_of_before hfamily ho.2⟩
  · rw [Finset.mem_filter]
    exact ⟨List.mem_toFinset.mpr hmem, hnow⟩
  · rw [Finset.mem_filter]
    exact fun h => hbefore h.2

/-- **One unfolding for every name and level is enough.** Whatever comes to something under some
budget comes to the same under one that covers the levels of the value and the names that have come
in. -/
theorem resolution_settles (budget : Nat) : ∀ (budget' : Nat) (v : Value) (depth : Nat)
    (ref : Reference), v.height * family.length + family.answering budget v depth ≤ budget' →
    (family.resolution .sync budget ref).judge.Settles True
      (family.resolution .sync budget' ref).judge v depth := by
  induction budget with
  | zero =>
    intro budget' v depth ref _ s c r _ hr
    cases hr
  | succ budget ih =>
    intro budget' v depth ref hle s c r hc hr
    by_cases hbefore : family.Answering budget v depth ref.name
    · -- the name came in before, so it comes to something everywhere
      obtain ⟨s₀, c₀, r₀, hc₀, hr₀⟩ := hbefore
      rw [← resolution_eq_of_name] at hr₀
      have hle' := (Nat.add_le_add_left (answering_mono hfamily budget v depth) _).trans hle
      have hall := (ih budget' v depth ref hle' hc₀ hr₀).2 trivial
      obtain ⟨r', hr'⟩ := hall s c hc
      obtain rfl := resolution_unique hfamily hr hr'
      exact ⟨hr', fun _ => hall⟩
    · -- the names that its definition asks came in before it
      have hnow : family.Answering (budget + 1) v depth ref.name :=
        ⟨s, c, r, hc, by rw [← resolution_eq_of_name]; exact hr⟩
      unfold resolution at hr
      cases hdef : Keyed.find? ref.name family with
      | none =>
        rw [hdef] at hr
        cases hr
      | some definition =>
        rw [hdef] at hr
        have hmem := Keyed.mem_of_find? hdef
        have hlt := answering_lt hfamily (List.mem_map_of_mem hmem) hnow hbefore
        obtain ⟨budget', rfl⟩ : ∃ k, budget' = k + 1 := ⟨budget' - 1, by omega⟩
        have hsettled : (definition.evaluator .sync (family.resolution .sync budget)).judge.Settles
            True (definition.evaluator .sync (family.resolution .sync budget')).judge v depth := by
          refine Schema.evaluator_settles (hfamily _ hmem) v depth (fun ref' => ?_)
            fun ref' w hw d => ?_
          · exact ih budget' v depth ref' (by omega)
          · -- a level was passed, which pays for all names
            have hnames := answering_le_length family budget w d
            have hlevels := Nat.mul_le_mul_right family.length (Nat.succ_le_of_lt hw)
            rw [Nat.succ_mul] at hlevels
            exact ih budget' w d ref' (by omega)
        obtain ⟨hsame, hall⟩ := hsettled hc hr
        simp only [resolution, hdef]
        exact ⟨hsame, hall⟩

end Family

/-- **The budget of a value is enough**: what a pure schema comes to on a value under some budget it
comes to under the budget of the value. -/
theorem Family.judge_of_budget {family : Family} (hfamily : ∀ e ∈ family, e.2.Every Schema.Pure)
    {schema : Schema} (hschema : schema.Every Schema.Pure) {budget : Nat} {s : Site} {v : Value}
    {c : Context} {r : Verdict}
    (h : (schema.evaluator .sync (family.resolution .sync budget)).judge s v c = some r) :
    (family.evaluator .sync schema v).judge s v c = some r := by
  have hbudget : (v.height + 1) * family.length ≤ family.budget schema v := by
    unfold Family.budget
    exact Nat.mul_le_mul (by omega) (Nat.le_succ _)
  rw [Nat.succ_mul] at hbudget
  have hsettled : (schema.evaluator .sync (family.resolution .sync budget)).judge.Settles True
      (family.evaluator .sync schema v).judge v c.depth := by
    refine Schema.evaluator_settles hschema v c.depth (fun ref => ?_) fun ref w hw d => ?_
    · have hnames := answering_le_length family budget v c.depth
      exact resolution_settles hfamily budget _ v c.depth ref (by omega)
    · have hnames := answering_le_length family budget w d
      have hlevels := Nat.mul_le_mul_right family.length (Nat.le_of_lt hw)
      exact resolution_settles hfamily budget _ w d ref (by omega)
  exact (hsettled rfl h).1

end ValueSchema
