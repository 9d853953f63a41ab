/-
Paths of schemas are compositional.

A schema says below a path what it says at the root, one path further down. Two things can spoil
this. A refiner is told the path and may answer differently; and an empty name, joined to the root,
leaves no trace, while below a path it leaves a point. The second depends on what a judgement
meets, which values of a caller's decide that come up on the way only. So meeting an empty name is
told by evaluating: a careful evaluation comes to nothing where it meets one, and to the verdict of
the schema where it meets none.

A careful evaluation is bounded by the steps that it takes inside each other, whatever these are. A
judgement unfolds definitions as often as its budget says, and a larger budget changes no verdict,
so the two are compared under a budget that is as large as either.
-/
import ValueSchema.Proofs.Termination.Extension
import ValueSchema.Proofs.Termination.Families

set_option autoImplicit false

namespace ValueSchema

/-! ## Careful evaluation -/

/-- Comes to nothing where a refiner would report about a part without a name. -/
def Judge.watching (r : Refiner) (inner : Judge) : Judge := fun s v c =>
  (inner s v c).filter fun verdict =>
    match verdict with
    | .ok output => !((r c.path output).1.filterMap Report.name?).contains ""
    | .error _ => true

/-- The evaluator inside a node, watched if a refiner works on what it puts out. -/
def Schema.watched : Schema → Evaluator → Evaluator
  | .modified (.superRefine r) _, inner => ⟨inner.judge.watching r, inner.test⟩
  | _, inner => inner

/-- Comes to nothing on a value with which the node meets an empty name. -/
def Schema.heeding (s : Schema) (e : Evaluator) : Evaluator :=
  ⟨fun site v c => if (s.namesAt v).contains "" then none else e.judge site v c, e.test⟩

/-- The evaluator that takes at most so many steps inside each other, and comes to nothing where it
meets an empty name. -/
def Family.careful (family : Family) : Nat → Schema → Evaluator
  | 0, _ => .unresolved
  | steps + 1, s =>
    s.heeding (s.layer .sync
      (fun ref =>
        match Keyed.find? ref.name family with
        | some definition => family.careful steps definition
        | none => .unresolved)
      fun t => s.watched (family.careful steps t))

/-- Judging a value meets no empty name: looking out for one comes to the same. -/
def Schema.MeetsNoEmptyName (schema : Schema) (family : Family) (v : Value) : Prop :=
  ∃ steps, (family.careful steps schema).judge (family.start schema v) v Context.root
    = schema.validate family v

/-- A node calls no refiner that reads the path. -/
def Schema.ReadsNoPath : Schema → Prop
  | .modified (.superRefine r) _ => ∀ (path path' : String) (v : Value), r path v = r path' v
  | _ => True

/-! ## Below a prefix -/

/-- What a watched evaluator puts out is refined alike at every path. -/
theorem Schema.refinerMoves_watched {p : String} {child : Schema → Evaluator} {s : Schema}
    (hs : s.ReadsNoPath) : s.RefinerMoves p fun t => s.watched (child t) := by
  unfold RefinerMoves
  split
  · rename_i r inner
    intro site v c out hout
    refine ⟨hs _ _ out, fun name hname => .inr ?_⟩
    rintro rfl
    -- an output on which the refiner reports an empty name does not get past the watch
    obtain ⟨hinner, hwatch⟩ := Option.filter_eq_some_iff.mp hout
    rw [Bool.not_eq_true', ← Bool.not_eq_true, List.contains_iff_mem] at hwatch
    exact hwatch hname
  · trivial

theorem Schema.watched_lifts {p : String} {s : Schema} {e e' : Evaluator}
    (h : e.judge.Lifts p e'.judge) : (s.watched e).judge.Lifts p e'.judge := by
  unfold watched
  split
  · exact fun _ _ _ _ hv => h (Option.filter_eq_some_iff.mp hv).1
  · exact h

/-- **A careful evaluation is lifted**: what it comes to at the root, the schema comes to below
every prefix, under any budget that covers the steps. -/
theorem Family.careful_lifts {family : Family} (hf : ∀ e ∈ family, e.2.Every Schema.ReadsNoPath)
    (p : String) {steps budget : Nat} (hle : steps ≤ budget) {s : Schema}
    (hs : s.Every Schema.ReadsNoPath) :
    (family.careful steps s).judge.Lifts p
      (s.evaluator .sync (family.resolution .sync budget)).judge := by
  induction steps generalizing budget s with
  | zero =>
    intro site v c verdict hv
    cases hv
  | succ steps ih =>
    obtain ⟨left, rfl⟩ : ∃ left, budget = left + 1 := ⟨budget - 1, by omega⟩
    intro site v c verdict hv
    simp only [careful, Schema.heeding] at hv
    -- past the check no name is empty
    split at hv
    · cases hv
    · rename_i hnames
      rw [Schema.evaluator_eq_layer]
      refine Schema.layer_lifts (fun name hname => .inr ?_)
        (Schema.refinerMoves_watched hs.node) (fun ref => ?_) (fun t ht => ?_) hv
      · rintro rfl
        exact hnames (List.contains_iff_mem.mpr hname)
      · unfold resolution
        cases hdef : Keyed.find? ref.name family with
        | none =>
          intro site v c verdict hv
          cases hv
        | some definition =>
          exact ih (Nat.le_of_succ_le_succ hle) (hf _ (Keyed.mem_of_find? hdef))
      · exact Schema.watched_lifts (ih (Nat.le_of_succ_le hle) (hs.child ht))

theorem Schema.pathBlind_of_readsNoPath {s : Schema} (h : s.ReadsNoPath) : s.PathBlind := by
  unfold PathBlind
  split
  · intro p q v
    unfold Refiner.Passes
    rw [h p q v]
  · trivial

section

variable {schema : Schema} {family : Family}

/-- A judgement below a path is the judgement at the root with all paths moved. -/
theorem Schema.validateAt_eq_map (hs : schema.Every ReadsNoPath)
    (hf : ∀ e ∈ family, e.2.Every ReadsNoPath) {v : Value}
    (hnames : schema.MeetsNoEmptyName family v) (p : String) :
    schema.validateAt family v p = (schema.validate family v).map (Verdict.under p) := by
  obtain ⟨steps, hsteps⟩ := hnames
  -- whatever the path, the schema comes to a verdict or to nothing
  have hblind := hs.mono fun _ => pathBlind_of_readsNoPath
  have hrefs := resolution_coherent (fun e he => (hf e he).mono fun _ => pathBlind_of_readsNoPath)
    (family.budget schema v)
  have halike : Likeness.pathFree.answer (schema.validate family v)
      (schema.validateAt family v p) :=
    (evaluator_coherent hblind hrefs).pathFree.judge rfl rfl rfl
  rcases halike.eq_or with ⟨hnone, hnone'⟩ | ⟨verdict, verdict', hv, hv', _⟩
  · rw [hnone, hnone']
    rfl
  · rw [hv] at hsteps
    -- under a large budget the careful evaluation says which verdict it is
    have hmoved := Family.careful_lifts hf p (Nat.le_max_left steps (family.budget schema v)) hs
      hsteps
    have hsame := (evaluator_extends (fun ref => Family.resolution_extends_of_le
      (Nat.le_max_right steps (family.budget schema v)) ref) schema).judge.same hv'
    rw [Context.under_root] at hmoved
    rw [hv, hv', Option.some.inj (hsame.symm.trans hmoved)]
    rfl

/-- **Error paths are compositional.** If the refiners of a schema read no path and judging a value
meets no empty name, then below a path that is not empty the value is accepted exactly if it is at
the root, with the same output; and it is rejected exactly if it is at the root, with the same
issues in the same order, each one at the path for the root path, and otherwise at the path, a
point and its own path. -/
theorem Schema.validateAt_compositional (hs : schema.Every ReadsNoPath)
    (hf : ∀ e ∈ family, e.2.Every ReadsNoPath) {p : String} (hp : p ≠ "") {v : Value}
    (hnames : schema.MeetsNoEmptyName family v) :
    (∀ out, schema.validateAt family v p = some (.ok out)
        ↔ schema.validate family v = some (.ok out))
      ∧ (∀ below, schema.validateAt family v p = some (.error below)
        ↔ ∃ e, schema.validate family v = some (.error e)
          ∧ below.toList = e.toList.map fun i =>
            i.atPath (if i.path = "" then p else p ++ "." ++ i.path))
      ∧ ∀ e : Issues, (schema.validate family v = some (.error e)
          ∨ schema.validateAt family v p = some (.error e)) → e.toList ≠ [] := by
  have hmap := validateAt_eq_map hs hf hnames p
  have hpaths : ∀ e : Issues, (e.under p).toList
      = e.toList.map fun i => i.atPath (if i.path = "" then p else p ++ "." ++ i.path) := by
    intro e
    rw [Issues.toList_under]
    unfold Issue.under Context.rebase
    simp only [Context.join_of_ne hp]
  refine ⟨fun out => ?_, fun below => ?_, fun e _ => List.cons_ne_nil _ _⟩
  · rw [hmap]
    cases schema.validate family v with
    | none => exact ⟨fun h => (nomatch h), fun h => (nomatch h)⟩
    | some verdict =>
      cases verdict with
      | ok w => exact Iff.rfl
      | error e => exact ⟨fun h => (nomatch h), fun h => (nomatch h)⟩
  · rw [hmap]
    constructor
    · intro hbelow
      obtain ⟨verdict, hv, hunder⟩ := Option.map_eq_some_iff.mp hbelow
      cases verdict with
      | ok w => cases hunder
      | error e =>
        cases hunder
        exact ⟨e, hv, hpaths e⟩
    · rintro ⟨e, he, hlist⟩
      rw [he]
      -- a list of issues is told by its issues
      rw [← hpaths e] at hlist
      obtain ⟨i, rest⟩ := below
      injection hlist with hfirst hrest
      exact congrArg (fun e => some (Except.error e)) (congr (congrArg Issues.mk hfirst) hrest).symm

end

/-- A tree that may have nothing below it: the refiner reports about the tree and about what is
below. -/
def Schema.stump : Schema :=
  .modified (.superRefine fun _ _ =>
    ([.here "Not a stump", .below "below" "Nothing may be below"], .ok true)) treeNode

theorem Schema.validateAt_compositional_twig :
    (∃ e, stump.validate Family.trees Value.twig = some (.error e)
        ∧ e.toList.map Issue.path = ["", "below"])
      ∧ ∃ below, stump.validateAt Family.trees Value.twig "garden" = some (.error below)
        ∧ below.toList.map Issue.path = ["garden", "garden.below"] := by
  have htree : treeNode.Every ReadsNoPath := treeNode_every trivial trivial trivial trivial
  have hstump : stump.Every ReadsNoPath := by
    refine .intro _ (fun _ _ _ => rfl) fun t ht => ?_
    cases List.mem_singleton.mp (show t ∈ [treeNode] from ht)
    exact htree
  have htrees : ∀ e ∈ Family.trees, e.2.Every ReadsNoPath := by
    intro e he
    cases List.mem_singleton.mp he
    exact htree
  have hnames : stump.MeetsNoEmptyName Family.trees Value.twig := ⟨7, rfl⟩
  obtain ⟨_, hrejects, _⟩ :=
    validateAt_compositional hstump htrees (by decide : "garden" ≠ "") hnames
  let issue (path text : String) : Issue := (Context.atPath path).issue .custom text
  have hroot : stump.validate Family.trees Value.twig = some (.error
      ⟨issue "" "Not a stump", [issue "below" "Nothing may be below"]⟩) := rfl
  refine ⟨⟨_, hroot, rfl⟩, ⟨issue "garden" "Not a stump",
    [issue "garden.below" "Nothing may be below"]⟩, (hrejects _).mpr ⟨_, hroot, rfl⟩, rfl⟩

end ValueSchema
