/-
Judging below a prefix, layer by layer.

A judge lifts another one below a prefix when it comes to the same verdict there wherever the
other one comes to a verdict at all, with all paths moved. The other one may well come to nothing
more often, so lifting serves two ends: below a prefix it says that paths are compositional, and
below the empty prefix, where nothing moves, that a judge is defined further than another one.

Every traversal over lifted judges is lifted, as long as the names that it joins to paths are not
empty. A node is told the value before it joins anything, so which names these are is asked of
node and value.
-/
import ValueSchema.Proofs.Rerooting.Paths

set_option autoImplicit false

namespace ValueSchema

/-- An entry of a record with its verdicts moved. -/
def Record.Entry.under (p : String) (e : Record.Entry) : Record.Entry :=
  ⟨e.key, e.keyVerdict.under p, e.valueVerdict.under p⟩

/-- Where the first judge comes to a verdict, the second one comes to the same below a prefix. -/
def Judge.Lifts (p : String) (j j' : Judge) : Prop :=
  ∀ ⦃s : Site⦄ ⦃v : Value⦄ ⦃c : Context⦄ ⦃verdict : Verdict⦄, j s v c = some verdict →
    j' s v (c.under p) = some (verdict.under p)

/-! ## Names -/

/-- The names of the fields of an object. -/
def Value.fieldNames : Value → List String
  | object _ fields => Keyed.keys fields
  | _ => []

/-- The part of the value that a report is about. -/
def Report.name? : Report → Option String
  | below name _ => some name
  | _ => none

/-- The names that a node joins to its path when it is given a value. -/
def Schema.namesAt : Schema → Value → List String
  | .object shape, v => shape.keys ++ v.fieldNames
  | .record _ _ _, v => v.fieldNames
  | .tagged discriminator _, _ => [discriminator]
  | _, _ => []

/-- A refiner reports the same about a value below a prefix, and about parts with a name. -/
def Refiner.Moves (r : Refiner) (p path : String) (v : Value) : Prop :=
  r (Context.rebase p path) v = r path v
    ∧ ∀ name ∈ (r path v).1.filterMap Report.name?, Context.Joins p name

/-- The refiner of a node moves on everything that the schema inside puts out. -/
def Schema.RefinerMoves (p : String) (child : Schema → Evaluator) : Schema → Prop
  | .modified (.superRefine r) inner => ∀ s v c out,
      (child inner).judge s v c = some (.ok out) → r.Moves p c.path out
  | _ => True

namespace Judge.Lifts

variable {σ : Type} {p : String} {j j' : σ → Judge} {s : Site} {c : Context}

/-! ## Leaves -/

theorem leaf {run : Context → Value → Verdict} (h : Local run) (accepts : Value → Bool) :
    (Evaluator.leaf run accepts).judge.Lifts p (Evaluator.leaf run accepts).judge := by
  intro s v c verdict hv
  cases hv
  exact congrArg some (h p c v)

/-! ## Containers -/

theorem judgeFields {input : List (String × Value)} {fields : List (String × σ)}
    (hnames : ∀ f ∈ fields, Context.Joins p f.1) (h : ∀ f ∈ fields, (j f.2).Lifts p (j' f.2)) :
    ∀ {n : Nat} {l : List (String × Verdict)},
    Shape.judgeFields s c input n (Keyed.mapValues j fields) = some l →
    Shape.judgeFields s (c.under p) input n (Keyed.mapValues j' fields)
      = some (Keyed.mapValues (Verdict.under p) l) := by
  induction fields with
  | nil =>
    intro n l hl
    cases hl
    rfl
  | cons f rest ih =>
    intro n l hl
    rw [List.forall_mem_cons] at hnames h
    obtain ⟨verdict, hv, hl⟩ := Option.bind_eq_some_iff.mp hl
    obtain ⟨others, ho, hl⟩ := Option.bind_eq_some_iff.mp hl
    cases hl
    -- the field stands under its key on both sides
    have hfield := h.1 hv
    rw [Context.under_childKey hnames.1] at hfield
    have hrest := ih hnames.2 h.2 ho
    simp only [Keyed.mapValues, List.map_cons, Shape.judgeFields] at hrest ⊢
    rw [hfield, hrest]
    rfl

theorem fieldOutputs_under (l : List (String × Verdict)) :
    Shape.fieldOutputs (Keyed.mapValues (Verdict.under p) l) = Shape.fieldOutputs l := by
  induction l with
  | nil => rfl
  | cons e rest ih =>
    obtain ⟨key, verdict⟩ := e
    cases verdict with
    | error _ => exact ih
    | ok out =>
      show Shape.fieldOutputs ((key, .ok out) :: Keyed.mapValues (Verdict.under p) rest) = _
      rw [Shape.fieldOutputs_ok, Shape.fieldOutputs_ok, ih]

theorem object {shape : Shape σ} {v : Value} {verdict : Verdict}
    (hnames : ∀ name ∈ shape.keys ++ v.fieldNames, Context.Joins p name)
    (h : ∀ f ∈ shape.fields, (j f.2).Lifts p (j' f.2))
    (hv : (shape.map j).judge s v c = some verdict) :
    (shape.map j').judge s v (c.under p) = some (verdict.under p) := by
  simp only [Shape.judge, Likeness.keys_map_eq, guardedFields_under] at hv ⊢
  simp only [Shape.map] at hv ⊢
  cases hin : guardedFields shape.limits c v with
  | error i =>
    rw [hin] at hv
    cases hv
    rfl
  | ok input =>
    rw [hin] at hv
    obtain ⟨l, hl, hv⟩ := Option.bind_eq_some_iff.mp hv
    cases hv
    obtain ⟨id, rfl, _⟩ := guardedFields_eq_ok hin
    have hshape : ∀ f ∈ shape.fields, Context.Joins p f.1 := fun f hf =>
      hnames f.1 (List.mem_append_left _ (List.mem_map_of_mem hf))
    have hextra : ∀ f ∈ undeclared shape.keys input, Context.Joins p f.1 := fun f hf =>
      hnames f.1 (List.mem_append_right _ (List.mem_map_of_mem (List.mem_of_mem_filter hf)))
    -- the verdicts on the fields move, and so do the findings about the other keys
    have hverdicts : (Keyed.mapValues (Verdict.under p) l).map Prod.snd
        = (l.map Prod.snd).map (Verdict.under p) := by
      simp only [Keyed.mapValues, List.map_map, Function.comp_def]
    show (Shape.judgeFields s (c.under p) input 0 (Keyed.mapValues j' shape.fields)).bind _ = _
    rw [judgeFields hshape h hl, Option.bind_some, hverdicts, Verdict.allIssues_under,
      UnknownKeys.issues_under _ _ hextra, fieldOutputs_under, Verdict.under_finish,
      List.map_append]

theorem judgeFrom {judgeAt judgeAt' : Nat → Judge} (h : ∀ n, (judgeAt n).Lifts p (judgeAt' n))
    {items : List Value} : ∀ {n : Nat} {l : List Verdict},
    judgeFrom judgeAt s c n items = some l →
    ValueSchema.judgeFrom judgeAt' s (c.under p) n items = some (l.map (Verdict.under p)) := by
  induction items with
  | nil =>
    intro n l hl
    cases hl
    rfl
  | cons x rest ih =>
    intro n l hl
    obtain ⟨verdict, hv, hl⟩ := Option.bind_eq_some_iff.mp hl
    obtain ⟨others, ho, hl⟩ := Option.bind_eq_some_iff.mp hl
    cases hl
    have hitem := h n hv
    rw [Context.under_childIndex] at hitem
    simp only [ValueSchema.judgeFrom]
    rw [hitem, ih ho]
    rfl

/-- What is built from the verdicts on all elements. -/
theorem judgeAll {judgeAt judgeAt' : Nat → Judge} (h : ∀ n, (judgeAt n).Lifts p (judgeAt' n))
    {items : List Value} {build : List Value → Value} {verdict : Verdict}
    (hv : (do
      let verdicts ← judgeAll judgeAt s c items
      some (Verdict.finish (Verdict.allIssues verdicts) (build (Verdict.outputs verdicts))))
        = some verdict) :
    (do
      let verdicts ← ValueSchema.judgeAll judgeAt' s (c.under p) items
      some (Verdict.finish (Verdict.allIssues verdicts) (build (Verdict.outputs verdicts))))
        = some (verdict.under p) := by
  obtain ⟨l, hl, hv⟩ := Option.bind_eq_some_iff.mp hv
  cases hv
  have hall : ValueSchema.judgeAll judgeAt' s (c.under p) items
      = some (l.map (Verdict.under p)) := judgeFrom h hl
  rw [hall]
  show some (Verdict.finish _ _) = _
  rw [Verdict.allIssues_under, Verdict.outputs_under, Verdict.under_finish]

theorem array (b : ArrayBounds) {k k' : Judge} (h : k.Lifts p k') :
    (b.judge k).Lifts p (b.judge k') := by
  intro s v c verdict hv
  simp only [ArrayBounds.judge, guardedItems_under] at hv ⊢
  cases hin : guardedItems b.limits c v with
  | error i =>
    rw [hin] at hv
    cases hv
    rfl
  | ok items =>
    rw [hin] at hv
    simp only [Except.mapError] at hv ⊢
    cases hf : b.fault? items with
    | some fault =>
      rw [hf] at hv
      cases hv
      simp only [SizeFault.issue_under, Verdict.under_reject]
    | none =>
      rw [hf] at hv
      exact judgeAll (fun _ => h) hv

theorem tuple {items : List σ} {rest : Option σ} (limits : Limits)
    (h : ∀ x ∈ items ++ rest.toList, (j x).Lifts p (j' x)) :
    Judge.Lifts p (Tuple.judge (items.map j) (rest.map j) limits)
      (Tuple.judge (items.map j') (rest.map j') limits) := by
  intro s v c verdict hv
  simp only [Tuple.judge, List.length_map, Option.isSome_map, Tuple.childAt_map,
    guardedItems_under] at hv ⊢
  cases hin : guardedItems limits c v with
  | error i =>
    rw [hin] at hv
    cases hv
    rfl
  | ok elements =>
    rw [hin] at hv
    simp only [Except.mapError] at hv ⊢
    cases hf : Tuple.fault? items.length rest.isSome elements.length with
    | some fault =>
      rw [hf] at hv
      cases hv
      simp only [SizeFault.issue_under, Verdict.under_reject]
    | none =>
      rw [hf] at hv
      refine judgeAll (fun n => ?_) hv
      -- a position without a child puts out what it is given
      cases hn : Tuple.childAt items rest n with
      | none =>
        intro s v c verdict hv
        cases hv
        rfl
      | some x => exact h x (Tuple.mem_of_childAt hn)

theorem set (b : SetBounds) {k k' : Judge} (h : k.Lifts p k') :
    (b.judge k).Lifts p (b.judge k') := by
  intro s v c verdict hv
  cases v with
  | set id items =>
    simp only [SetBounds.judge, SetBounds.fault?_under, Context.under_depth] at hv ⊢
    cases hd : Guard.checkDepth c.depth b.limits with
    | error r =>
      rw [hd] at hv
      cases hv
      rfl
    | ok _ =>
      simp only [hd] at hv ⊢
      cases hf : b.fault? c items.length with
      | some i =>
        rw [hf] at hv
        cases hv
        rfl
      | none =>
        rw [hf] at hv
        exact judgeAll (fun _ => h) hv
  | _ =>
    cases hv
    rfl

theorem judgeEntries {key : Option σ} {k k' : Judge} (h : ∀ x ∈ key, (j x).Lifts p (j' x))
    (hk : k.Lifts p k') {input : List (String × Value)}
    (hnames : ∀ f ∈ input, Context.Joins p f.1) : ∀ {n : Nat} {l : List Record.Entry},
    Record.judgeEntries (key.map j) k s c n input = some l →
    Record.judgeEntries (key.map j') k' s (c.under p) n input
      = some (l.map (Record.Entry.under p)) := by
  induction input with
  | nil =>
    intro n l hl
    cases hl
    rfl
  | cons f rest ih =>
    obtain ⟨name, x⟩ := f
    intro n l hl
    rw [List.forall_mem_cons] at hnames
    obtain ⟨verdict, hv, hl⟩ := Option.bind_eq_some_iff.mp hl
    obtain ⟨verdict', hv', hl⟩ := Option.bind_eq_some_iff.mp hl
    obtain ⟨others, ho, hl⟩ := Option.bind_eq_some_iff.mp hl
    cases hl
    -- key and value of an entry stand under the name
    have hkey : Record.judgeKey (key.map j') ((s.child n).child 0) name
        ((c.under p).childKey name) = some (verdict.under p) := by
      cases key with
      | none =>
        cases hv
        rfl
      | some t =>
        rw [← Context.under_childKey hnames.1]
        exact h t rfl hv
    have hvalue := hk hv'
    rw [Context.under_childKey hnames.1] at hvalue
    simp only [Record.judgeEntries]
    rw [hkey, hvalue, ih hnames.2 ho]
    rfl

theorem record {key : Option σ} {k k' : Judge} (limits : Limits)
    (h : ∀ x ∈ key, (j x).Lifts p (j' x)) (hk : k.Lifts p k') {v : Value} {verdict : Verdict}
    (hnames : ∀ name ∈ v.fieldNames, Context.Joins p name)
    (hv : Record.judge (key.map j) k limits s v c = some verdict) :
    Record.judge (key.map j') k' limits s v (c.under p) = some (verdict.under p) := by
  simp only [Record.judge, guardedFields_under] at hv ⊢
  cases hin : guardedFields limits c v with
  | error i =>
    rw [hin] at hv
    cases hv
    rfl
  | ok input =>
    rw [hin] at hv
    obtain ⟨l, hl, hv⟩ := Option.bind_eq_some_iff.mp hv
    cases hv
    obtain ⟨id, rfl, _⟩ := guardedFields_eq_ok hin
    have hinput : ∀ f ∈ input, Context.Joins p f.1 := fun f hf =>
      hnames f.1 (List.mem_map_of_mem hf)
    have hissues : (l.map (Record.Entry.under p)).flatMap Record.Entry.issues
        = (l.flatMap Record.Entry.issues).map (Issue.under p) := by
      simp only [List.flatMap_map, List.map_flatMap, Record.Entry.issues, Record.Entry.under,
        Verdict.issues_under, List.map_append]
    have houtputs : (l.map (Record.Entry.under p)).filterMap Record.Entry.output?
        = l.filterMap Record.Entry.output? := by
      rw [List.filterMap_map]
      refine congrArg (List.filterMap · l) (funext fun e => ?_)
      obtain ⟨name, a, b⟩ := e
      cases a <;> rcases b with _ | w <;> rfl
    show (Record.judgeEntries (key.map j') k' s (c.under p) 0 input).bind _ = _
    rw [judgeEntries h hk hinput hl, Option.bind_some, hissues, houtputs, Verdict.under_finish]

theorem judgePairs {k k' i i' : Judge} (h : k.Lifts p k') (h' : i.Lifts p i')
    {entries : List (Value × Value)} : ∀ {n : Nat} {l : List (Verdict × Verdict)},
    Dictionary.judgeEntries k i s c n entries = some l →
    Dictionary.judgeEntries k' i' s (c.under p) n entries
      = some (l.map fun e => (e.1.under p, e.2.under p)) := by
  induction entries with
  | nil =>
    intro n l hl
    cases hl
    rfl
  | cons e rest ih =>
    obtain ⟨x, y⟩ := e
    intro n l hl
    obtain ⟨verdict, hv, hl⟩ := Option.bind_eq_some_iff.mp hl
    obtain ⟨verdict', hv', hl⟩ := Option.bind_eq_some_iff.mp hl
    obtain ⟨others, ho, hl⟩ := Option.bind_eq_some_iff.mp hl
    cases hl
    have hkey := h hv
    have hvalue := h' hv'
    rw [Context.under_atKey (.inr (by decide)), Context.under_childIndex] at hkey hvalue
    simp only [Dictionary.judgeEntries]
    rw [hkey, hvalue, ih ho]
    rfl

theorem map {k k' i i' : Judge} (limits : Limits) (h : k.Lifts p k') (h' : i.Lifts p i') :
    Judge.Lifts p (Dictionary.judge k i limits) (Dictionary.judge k' i' limits) := by
  intro s v c verdict hv
  cases v with
  | map id entries =>
    simp only [Dictionary.judge, Context.under_depth] at hv ⊢
    cases hd : Guard.checkDepth c.depth limits with
    | error r =>
      rw [hd] at hv
      cases hv
      rfl
    | ok _ =>
      rw [hd] at hv
      obtain ⟨l, hl, hv⟩ := Option.bind_eq_some_iff.mp hv
      cases hv
      have hissues : (l.map fun e => (e.1.under p, e.2.under p)).flatMap
            (fun e => e.1.issues ++ e.2.issues)
          = (l.flatMap fun e => e.1.issues ++ e.2.issues).map (Issue.under p) := by
        simp only [List.flatMap_map, List.map_flatMap, Verdict.issues_under, List.map_append]
      have houtputs : (l.map fun e => (e.1.under p, e.2.under p)).filterMap Dictionary.output?
          = l.filterMap Dictionary.output? := by
        rw [List.filterMap_map]
        refine congrArg (List.filterMap · l) (funext fun e => ?_)
        obtain ⟨a, b⟩ := e
        cases a <;> cases b <;> rfl
      show (Dictionary.judgeEntries k' i' s (c.under p) 0 entries).bind _ = _
      rw [judgePairs h h' hl, Option.bind_some, hissues, houtputs, Verdict.under_finish]
  | _ =>
    cases hv
    rfl

/-! ## Choices -/

theorem firstOutput? {options : List σ} (h : ∀ x ∈ options, (j x).Lifts p (j' x)) {v : Value} :
    ∀ {n : Nat} {found : Option Value},
    Union.firstOutput? s v c n (options.map j) = some found →
    Union.firstOutput? s v (c.under p) n (options.map j') = some found := by
  induction options with
  | nil => exact id
  | cons x rest ih =>
    intro n found hf
    rw [List.forall_mem_cons] at h
    obtain ⟨verdict, hv, hf⟩ := Option.bind_eq_some_iff.mp hf
    simp only [List.map_cons, Union.firstOutput?]
    rw [h.1 hv]
    -- an option accepts on both sides or on neither
    cases verdict with
    | ok output => exact hf
    | error e => exact ih h.2 hf

theorem union {options : List σ} (h : ∀ x ∈ options, (j x).Lifts p (j' x)) :
    Judge.Lifts p (Union.judge (options.map j)) (Union.judge (options.map j')) := by
  intro s v c verdict hv
  obtain ⟨found, hf, hv⟩ := Option.bind_eq_some_iff.mp hv
  simp only [Union.judge]
  rw [firstOutput? h hf]
  cases found with
  | some output =>
    cases hv
    rfl
  | none =>
    cases hv
    show some (Verdict.reject (Union.noMatch (c.under p) (options.map j').length)) = _
    rw [List.length_map, List.length_map]
    rfl

theorem tagged {discriminator : String} (hname : Context.Joins p discriminator)
    (literals : List (Option Value)) {options : List σ}
    (h : ∀ x ∈ options, (j x).Lifts p (j' x)) :
    Judge.Lifts p (Tagged.judge discriminator literals (options.map j))
      (Tagged.judge discriminator literals (options.map j')) := by
  intro s v c verdict hv
  cases v with
  | object id fields =>
    -- the tag is missed under its name
    have hmiss : Tagged.noMatch discriminator literals (c.under p) fields
        = (Tagged.noMatch discriminator literals c fields).under p := by
      simp only [Tagged.noMatch, ← Context.under_atKey hname]
      cases Keyed.find? discriminator fields <;> rfl
    simp only [Tagged.judge, List.getElem?_map] at hv ⊢
    cases hsel : Tagged.select? discriminator literals fields with
    | none =>
      rw [hsel] at hv
      cases hv
      exact congrArg (fun i => some (Verdict.reject i)) hmiss
    | some n =>
      rw [hsel, Option.bind_some] at hv
      rw [Option.bind_some]
      cases hn : options[n]? with
      | none =>
        rw [hn] at hv
        cases hv
        exact congrArg (fun i => some (Verdict.reject i)) hmiss
      | some x =>
        rw [hn] at hv
        exact h x (List.mem_of_getElem? hn) hv
  | _ =>
    cases hv
    rfl

theorem judgeBranches {branches : List σ} (h : ∀ x ∈ branches, (j x).Lifts p (j' x)) {v : Value} :
    ∀ {n : Nat} {l : List Verdict},
    Intersection.judgeBranches s v c n (branches.map j) = some l →
    Intersection.judgeBranches s v (c.under p) n (branches.map j')
      = some (l.map (Verdict.under p)) := by
  induction branches with
  | nil =>
    intro n l hl
    cases hl
    rfl
  | cons x rest ih =>
    intro n l hl
    rw [List.forall_mem_cons] at h
    obtain ⟨verdict, hv, hl⟩ := Option.bind_eq_some_iff.mp hl
    obtain ⟨others, ho, hl⟩ := Option.bind_eq_some_iff.mp hl
    cases hl
    simp only [List.map_cons, Intersection.judgeBranches]
    rw [h.1 hv, ih h.2 ho]
    rfl

theorem combine_under (l : List Verdict) :
    Intersection.combine s (c.under p) (l.map (Verdict.under p))
      = (Intersection.combine s c l).under p := by
  unfold Intersection.combine
  rw [Verdict.allIssues_under, Verdict.outputs_under, List.length_map, Issues.ofList?_map]
  cases Issues.ofList? (Verdict.allIssues l) with
  | some e => rfl
  | none => cases hm : Intersection.mergeAll (s.child l.length) (Verdict.outputs l) <;> rfl

theorem intersection {branches : List σ} (h : ∀ x ∈ branches, (j x).Lifts p (j' x)) :
    Judge.Lifts p (Intersection.judge (branches.map j)) (Intersection.judge (branches.map j')) := by
  intro s v c verdict hv
  obtain ⟨l, hl, rfl⟩ := Option.map_eq_some_iff.mp hv
  simp only [Intersection.judge]
  rw [judgeBranches h hl, Option.map_some, combine_under]

/-! ## Modifiers and pipes -/

/-- An output is handed on, an issue moves. -/
theorem andThen {verdict r : Verdict} {next next' : Value → Option Verdict}
    (h : ∀ out r, verdict = .ok out → next out = some r → next' out = some (r.under p))
    (hr : verdict.andThen next = some r) :
    (verdict.under p).andThen next' = some (r.under p) := by
  cases verdict with
  | ok out => exact h out r rfl hr
  | error e =>
    cases hr
    rfl

variable {k k' : Judge}

theorem pipe {i i' : Judge} (h : k.Lifts p k') (h' : i.Lifts p i') :
    (k.pipe i).Lifts p (k'.pipe i') := by
  intro s v c r hr
  obtain ⟨verdict, hv, hr⟩ := Option.bind_eq_some_iff.mp hr
  simp only [Judge.pipe]
  rw [h hv]
  exact andThen (fun _ _ _ hout => h' hout) hr

theorem ofMapped_under (answer : Except Crash Mapped) :
    Verdict.ofMapped answer (c.under p) = (Verdict.ofMapped answer c).under p := by
  rcases answer with crash | ⟨message | v⟩ <;> rfl

theorem mapInput (mapper : Mapper) (h : k.Lifts p k') :
    (k.mapInput mapper).Lifts p (k'.mapInput mapper) := by
  intro s v c r hr
  simp only [Judge.mapInput, ofMapped_under] at hr ⊢
  exact andThen (fun _ _ _ hout => h hout) hr

theorem mapOutput (mapper : Mapper) (h : k.Lifts p k') :
    (k.mapOutput mapper).Lifts p (k'.mapOutput mapper) := by
  intro s v c r hr
  obtain ⟨verdict, hv, hr⟩ := Option.bind_eq_some_iff.mp hr
  simp only [Judge.mapOutput]
  rw [h hv]
  refine andThen (fun out r _ hout => ?_) hr
  cases hout
  exact congrArg some (ofMapped_under _)

/-- A check of outputs moves if it does on the outputs that there are. -/
theorem checkOutput {check : Context → Value → Verdict} (h : k.Lifts p k')
    (hcheck : ∀ s v c out, k s v c = some (.ok out) →
      check (c.under p) out = (check c out).under p) :
    (k.checkOutput check).Lifts p (k'.checkOutput check) := by
  intro s v c r hr
  obtain ⟨verdict, hv, hr⟩ := Option.bind_eq_some_iff.mp hr
  simp only [Judge.checkOutput]
  rw [h hv]
  refine andThen (fun out r hok hout => ?_) hr
  cases hout
  rw [hok] at hv
  exact congrArg some (hcheck s v c out hv)

theorem ofCheck_under (answer : Except Crash Bool) (text : String) (v : Value) :
    Verdict.ofCheck answer text (c.under p) v = (Verdict.ofCheck answer text c v).under p := by
  rcases answer with crash | b
  · rfl
  · cases b <;> rfl

/-- A report stands at the value or at a name below it. -/
theorem toIssue_under {report : Report} (h : ∀ name ∈ report.name?, Context.Joins p name) :
    report.toIssue (c.under p) = (report.toIssue c).under p := by
  cases report with
  | here text => rfl
  | below name text =>
    simp only [Report.toIssue, ← Context.under_atKey (h name rfl)]
    rfl
  | issue i =>
    simp only [Report.toIssue]
    split
    · rfl
    · rw [← Context.under_atKey (.inr ‹_›)]
      rfl

theorem ofRefiner_under {r : Refiner} {v : Value} (h : r.Moves p c.path v) :
    Verdict.ofRefiner r (c.under p) v = (Verdict.ofRefiner r c v).under p := by
  obtain ⟨hsame, hnames⟩ := h
  have hcall : r (c.under p).path v = r c.path v := hsame
  have hreports : (r c.path v).1.map (Report.toIssue (c.under p))
      = ((r c.path v).1.map (Report.toIssue c)).map (Issue.under p) := by
    rw [List.map_map]
    refine List.map_congr_left fun report hreport => toIssue_under fun name hname => ?_
    exact hnames name (List.mem_filterMap.mpr ⟨report, hreport, hname⟩)
  simp only [Verdict.ofRefiner, hcall, hreports, Issues.ofList?_map]
  cases Issues.ofList? ((r c.path v).1.map (Report.toIssue c)) with
  | some e => rfl
  | none => exact ofCheck_under _ _ v

/-- What a modifier lets pass has no issue to move. -/
theorem passing (passes : Value → Bool) (output : Value → Value) (h : k.Lifts p k') :
    Judge.Lifts p (fun s v c => if passes v then some (.ok (output v)) else k s v c)
      (fun s v c => if passes v then some (.ok (output v)) else k' s v c) := by
  intro s v c verdict hv
  dsimp only at hv ⊢
  by_cases hp : passes v = true
  · rw [if_pos hp] at hv ⊢
    cases hv
    rfl
  · rw [if_neg hp] at hv ⊢
    exact h hv

theorem modifier (mode : Mode) {m : Modifier} (h : k.Lifts p k')
    (hrefiner : ∀ r, m = .superRefine r → ∀ s v c out, k s v c = some (.ok out) →
      r.Moves p c.path out) :
    (m.judge mode k).Lifts p (m.judge mode k') := by
  cases m with
  | optional => exact passing Value.isUndefined (fun _ => .undefined) h
  | nullable => exact passing Value.isNull (fun _ => .null) h
  | nullish => exact passing (fun v => v.isUndefined || v.isNull) id h
  | default standard => exact fun _ _ _ _ hv => h hv
  | fallback replacement =>
    intro s v c r hr
    obtain ⟨verdict, hv, hr⟩ := Option.bind_eq_some_iff.mp hr
    simp only [Modifier.judge]
    rw [h hv]
    cases verdict with
    | ok _ | error _ =>
      cases hr
      rfl
  | message text =>
    intro s v c r hr
    obtain ⟨verdict, hv, rfl⟩ := Option.map_eq_some_iff.mp hr
    simp only [Modifier.judge]
    rw [h hv]
    -- the message finds the same issues below the prefix
    cases verdict with
    | ok _ => rfl
    | error e =>
      exact congrArg (fun e => some (Except.error e)) (e.under_overrideMessage text).symm
  | refine check text => exact checkOutput h fun _ _ _ out _ => ofCheck_under _ text out
  | superRefine refiner =>
    exact checkOutput h fun s v c out hout => ofRefiner_under (hrefiner refiner rfl s v c out hout)
  | transform mapper => exact mapOutput _ h
  | preprocess mapper => exact mapInput _ h
  | refineAsync check text =>
    cases mode with
    | sync => exact h
    | async => exact checkOutput h fun _ _ _ out _ => ofCheck_under _ text out
  | transformAsync mapper =>
    cases mode with
    | sync => exact h
    | async => exact mapOutput (fun s v => (mapper s v).await) h
  | preprocessAsync mapper =>
    cases mode with
    | sync => exact h
    | async => exact mapInput (fun s v => (mapper s v).await) h

end Judge.Lifts

/-! ## Layers -/

/-- **A layer over lifted children is lifted**, on a value with which the node joins no empty name
to its path. -/
theorem Schema.layer_lifts {mode : Mode} {resolve resolve' : Resolution}
    {child child' : Schema → Evaluator} {p : String} {s : Schema} {site : Site} {v : Value}
    {c : Context} {verdict : Verdict} (hnames : ∀ name ∈ s.namesAt v, Context.Joins p name)
    (hrefiner : s.RefinerMoves p child)
    (href : ∀ ref, (resolve ref).judge.Lifts p (resolve' ref).judge)
    (h : ∀ t ∈ s.children, (child t).judge.Lifts p (child' t).judge)
    (hv : (s.layer mode resolve child).judge site v c = some verdict) :
    (s.layer mode resolve' child').judge site v (c.under p) = some (verdict.under p) := by
  have hbare := fun t (ht : t ∈ s.bare) => h t (mem_children_of_bare ht)
  have hheld := fun t (ht : t ∈ s.held) => h t (mem_children_of_held ht)
  cases s with
  | text t => exact Judge.Lifts.leaf (.text t) t.accepts hv
  | number n => exact Judge.Lifts.leaf (.number n) n.accepts hv
  | integer n => exact Judge.Lifts.leaf (.integer n) n.accepts hv
  | date d => exact Judge.Lifts.leaf (.date d) d.accepts hv
  | plain q => exact Judge.Lifts.leaf (.plain q) q.accepts hv
  | literal l => exact Judge.Lifts.leaf (.literal l) (Literal.accepts l) hv
  | words options => exact Judge.Lifts.leaf (.words options) (Words.accepts options) hv
  | enumeration entries =>
    exact Judge.Lifts.leaf (.enumeration entries) (Enumeration.accepts entries) hv
  | object shape =>
    exact Judge.Lifts.object hnames (fun f hf => hheld f.2 (List.mem_map_of_mem hf)) hv
  | array element bounds => exact Judge.Lifts.array bounds (hheld element (by simp [held])) hv
  | tuple items rest limits => exact Judge.Lifts.tuple limits hheld hv
  | record key value limits =>
    refine Judge.Lifts.record limits (fun t ht => ?_) (hheld value (by simp [held])) hnames hv
    exact hheld t (List.mem_append_left _ (Option.mem_toList.mpr ht))
  | map key value limits =>
    exact Judge.Lifts.map limits (hheld key (by simp [held])) (hheld value (by simp [held])) hv
  | set element bounds => exact Judge.Lifts.set bounds (hheld element (by simp [held])) hv
  | union options => exact Judge.Lifts.union hbare hv
  | tagged discriminator options =>
    refine Judge.Lifts.tagged (hnames discriminator List.mem_cons_self) _ (fun o ho => ?_) hv
    exact hbare (.object o) (List.mem_map_of_mem ho)
  | intersection branches => exact Judge.Lifts.intersection hbare hv
  | lazy ref => exact href ref hv
  | modified m inner =>
    refine Judge.Lifts.modifier mode (hbare inner (by simp [bare])) (fun r hr => ?_) hv
    subst hr
    exact hrefiner
  | pipe first next =>
    exact Judge.Lifts.pipe (hbare first (by simp [bare])) (hbare next (by simp [bare])) hv

end ValueSchema
