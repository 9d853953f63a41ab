/-
Judging up to what outputs may differ in.

Here one value is judged at one site and one context, and only outputs may differ, in a way that
passes from the parts of containers to the containers: not at all, or in identities. Issues then
differ in nothing but the values that they received from code of a caller's. The relation is a
parameter, so a law for equal outputs and one for outputs with the same content is one law.
-/
import ValueSchema.Proofs.Likeness.Layer
import ValueSchema.Proofs.Content

set_option autoImplicit false

namespace ValueSchema

open List (Forall₂)

/-! ## Congruences -/

/-- A relation on values that containers of related parts keep, and that shows the values that
judging looks at. -/
structure Value.Congruence (R : Value → Value → Prop) : Prop where
  refl : ∀ v : Value, R v v
  undefined : ∀ {v w : Value}, R v w → v.isUndefined = w.isUndefined
  string : ∀ {v w : Value}, R v w → v.string? = w.string?
  array : ∀ {id : Ident} {xs ys : List Value}, Forall₂ R xs ys →
    R (.array id xs) (.array id ys)
  object : ∀ {id : Ident} {xs ys : List (String × Value)}, Forall₂ (Keyed.Like R) xs ys →
    R (.object id xs) (.object id ys)
  map : ∀ {id : Ident} {xs ys : List (Value × Value)}, Forall₂ (Value.EntryLike R) xs ys →
    R (.map id xs) (.map id ys)
  set : ∀ {id : Ident} {xs ys : List Value}, Forall₂ R xs ys → R (.set id xs) (.set id ys)

theorem Keyed.eq_of_like_eq {xs ys : List (String × Value)}
    (h : Forall₂ (Keyed.Like Eq) xs ys) : xs = ys := by
  rw [← List.forall₂_eq_eq_eq]
  exact h.imp fun _ _ hxy => Prod.ext hxy.1 hxy.2

theorem Value.eq_of_entryLike_eq {xs ys : List (Value × Value)}
    (h : Forall₂ (Value.EntryLike Eq) xs ys) : xs = ys := by
  rw [← List.forall₂_eq_eq_eq]
  exact h.imp fun _ _ hxy => Prod.ext hxy.1 hxy.2

theorem Value.congruence_eq : Value.Congruence Eq where
  refl := fun _ => rfl
  undefined := fun h => congrArg _ h
  string := fun h => congrArg _ h
  array := fun h => by
    rw [List.forall₂_eq_eq_eq] at h
    rw [h]
  object := fun h => by rw [Keyed.eq_of_like_eq h]
  map := fun h => by rw [Value.eq_of_entryLike_eq h]
  set := fun h => by
    rw [List.forall₂_eq_eq_eq] at h
    rw [h]

theorem Value.congruence_sameContent : Value.Congruence Value.SameContent where
  refl := Value.sameContent_refl
  undefined := Value.isUndefined_eq_of_sameContent
  string := Value.string?_eq_of_sameContent
  array := (Value.sameContent_array _ _ _ _).mpr
  object := (Value.sameContent_object _ _ _ _).mpr
  map := (Value.sameContent_map _ _ _ _).mpr
  set := (Value.sameContent_set _ _ _ _).mpr

/-! ## Issues -/

/-- Two issues differ at most in the values that they received. -/
structure Issue.Like (R : Value → Value → Prop) (i i' : Issue) : Prop where
  path : i.path = i'.path
  code : i.code = i'.code
  message : i.message = i'.message
  received : Option.Rel R i.received i'.received
  expected : i.expected = i'.expected
  details : i.details = i'.details

namespace Issue.Like

variable {R : Value → Value → Prop} {i i' : Issue}

theorem refl (hR : ∀ v, R v v) (i : Issue) : i.Like R i where
  path := rfl
  code := rfl
  message := rfl
  received := by
    cases i.received with
    | none => exact .none
    | some v => exact .some (hR v)
  expected := rfl
  details := rfl

theorem atPath (h : i.Like R i') (path : String) : (i.atPath path).Like R (i'.atPath path) :=
  ⟨rfl, h.code, h.message, h.received, h.expected, h.details⟩

theorem withMessage (h : i.Like R i') (text : String) :
    (i.withMessage text).Like R (i'.withMessage text) :=
  ⟨h.path, h.code, rfl, h.received, h.expected, h.details⟩

theorem withReceived (h : i.Like R i') {v w : Value} (hvw : R v w) :
    (i.withReceived v).Like R (i'.withReceived w) :=
  ⟨h.path, h.code, h.message, .some hvw, h.expected, h.details⟩

theorem mono {Q R : Value → Value → Prop} (h : ∀ v w, Q v w → R v w) {i i' : Issue}
    (hi : i.Like Q i') : i.Like R i' where
  path := hi.path
  code := hi.code
  message := hi.message
  received := by
    rcases hi.received.eq_or with ⟨hx, hy⟩ | ⟨v, w, hx, hy, hvw⟩
    · rw [hx, hy]
      exact .none
    · rw [hx, hy]
      exact .some (h v w hvw)
  expected := hi.expected
  details := hi.details

end Issue.Like

/-- A message that is put on the issues at a path leaves what they differ in. -/
theorem Issues.overrideMessage_like {R : Value → Value → Prop} (path text : String) {e f : Issues}
    (h : Forall₂ (Issue.Like R) e.toList f.toList) :
    Forall₂ (Issue.Like R) (e.overrideMessage path text).toList
      (f.overrideMessage path text).toList := by
  unfold Issues.overrideMessage
  rw [Issues.toList_map, Issues.toList_map]
  refine List.rel_map (fun i i' hi => ?_) h
  rw [hi.path]
  split
  · exact hi.withMessage text
  · exact hi

/-! ## Code of a caller's -/

/-- Two reports differ at most in the values that an issue made by hand received. -/
inductive Report.Like (R : Value → Value → Prop) : Report → Report → Prop
  | here (message : String) : Like R (.here message) (.here message)
  | below (path message : String) : Like R (.below path message) (.below path message)
  | issue {i i' : Issue} (h : i.Like R i') : Like R (.issue i) (.issue i')

/-- The code that a modifier calls on outputs answers related values with related answers. -/
def Modifier.Respects (R : Value → Value → Prop) : Modifier → Prop
  | .refine check _ => ∀ v w, R v w → check v = check w
  | .superRefine refiner => ∀ path v w, R v w →
    Forall₂ (Report.Like R) (refiner path v).1 (refiner path w).1
      ∧ (refiner path v).2 = (refiner path w).2
  | .transform mapper => ∀ s v w, R v w →
    Except.Like Eq (Except.Like Eq R) (mapper s v) (mapper s w)
  | _ => True

/-- The code that a node calls on outputs answers related values with related answers. -/
def Schema.Respects (R : Value → Value → Prop) : Schema → Prop
  | .modified m _ => m.Respects R
  | _ => True

theorem Report.toIssue_like {R : Value → Value → Prop} (hR : ∀ v, R v v) (c : Context)
    {r r' : Report} (h : r.Like R r') : (r.toIssue c).Like R (r'.toIssue c) := by
  cases h with
  | here message => exact .refl hR _
  | below path message => exact .refl hR _
  | issue h =>
    simp only [Report.toIssue, h.path]
    exact h.atPath _

/-- A refiner that does not tell related values apart makes related verdicts of them. -/
theorem Verdict.ofRefiner_like {R : Value → Value → Prop} (hR : ∀ v, R v v) {refiner : Refiner}
    (h : (Modifier.superRefine refiner).Respects R) (c : Context) {v w : Value} (hv : R v w) :
    Verdict.Like R (Forall₂ (Issue.Like R)) (Verdict.ofRefiner refiner c v)
      (Verdict.ofRefiner refiner c w) := by
  obtain ⟨hreports, hanswer⟩ := h c.path v w hv
  simp only [Verdict.ofRefiner, hanswer]
  generalize (refiner c.path v).1 = reports at hreports
  generalize (refiner c.path w).1 = reports' at hreports
  -- reports count more than the decision: with one there is an error on both sides
  rcases hreports with _ | ⟨hhead, htail⟩
  · rcases (refiner c.path w).2 with crash | b
    · exact .error (.cons (.refl hR _) .nil)
    · cases b with
      | true => exact .ok hv
      | false => exact .error (.cons (.refl hR _) .nil)
  · refine .error (.cons (Report.toIssue_like hR c hhead) ?_)
    exact List.rel_map (fun _ _ hr => Report.toIssue_like hR c hr) htail

namespace Likeness

variable {R : Value → Value → Prop}

/-! ## The likeness -/

/-- One value at one site and one context, judged up to a congruence of outputs. -/
def upTo (R : Value → Value → Prop) (hR : Value.Congruence R) : Likeness where
  site := Eq
  context := Eq
  input := Eq
  output := R
  issues := Forall₂ (Issue.Like R)
  site_child := Site.child_congr
  context_depth := fun h => congrArg Context.depth h
  context_childKey := Context.childKey_congr
  context_childIndex := Context.childIndex_congr
  context_atKey := Context.atKey_congr
  input_plain := fun _ => rfl
  input_parts := Value.Parts.of_eq
  output_of_input := fun h => h ▸ hR.refl _
  output_undefined := hR.undefined
  output_string := hR.string
  output_array := fun hs h => hs ▸ hR.array h
  output_object := fun hs h => hs ▸ hR.object h
  output_map := fun hs h => hs ▸ hR.map h
  output_set := fun hs h => hs ▸ hR.set h
  issues_nil := .nil
  issues_append := fun h h' => List.rel_append h h'
  issues_eq_nil := fun h => by rw [← List.length_eq_zero_iff, h.length_eq, List.length_eq_zero_iff]
  issues_here := fun i hc => hc ▸ .cons (.refl hR.refl _) .nil
  issues_received := fun hi hv => by
    cases hi with
    | cons h _ => exact .cons (h.withReceived (hv ▸ hR.refl _)) .nil
  issues_override := fun text hc h => hc ▸ Issues.overrideMessage_like _ text h

variable {hR : Value.Congruence R}

theorem upTo_sharp : (upTo R hR).Sharp := fun _ _ h => h

theorem upTo_rooted : (upTo R hR).Rooted := fun _ => rfl

theorem upTo_refiner {refiner : Refiner} (h : (Modifier.superRefine refiner).Respects R) :
    (upTo R hR).Checks fun c v => Verdict.ofRefiner refiner c v := by
  intro c c' v w hc hv
  cases hc
  exact Verdict.ofRefiner_like hR.refl h c hv

theorem upTo_modifies {m : Modifier} (h : m.Respects R) : (upTo R hR).Modifies .sync m := by
  cases m with
  | refine check text =>
    intro c c' v w hc hv
    show (upTo R hR).verdict _ (Verdict.ofCheck (check w) text c' w)
    rw [← h v w hv]
    exact ofCheck_like (check v) text hc hv
  | superRefine refiner => exact upTo_refiner h
  | transform mapper => exact fun s s' v w hs hv => hs ▸ h s v w hv
  | preprocess mapper =>
    intro s s' v w hs hv
    cases hs
    cases hv
    exact mapped_refl (fun _ => rfl) _
  | refineAsync _ _ => exact fun h => nomatch h
  | transformAsync _ => exact fun h => nomatch h
  | preprocessAsync _ => exact fun h => nomatch h
  | default _ | fallback _ => exact rfl
  | _ => exact trivial

end Likeness

/-- A node that compares, merges or judges again what its children put out. -/
def Schema.readsOutputs : Schema → Bool
  | .set _ _ => true
  | .intersection _ => true
  | .pipe _ _ => true
  | _ => false

namespace Likeness

variable {R : Value → Value → Prop} {hR : Value.Congruence R} {s : Schema}

theorem upTo_admits (h : s.Respects R) (hs : s.readsOutputs = false) :
    (upTo R hR).Admits .sync s := by
  cases s with
  | array _ _ => exact fun _ => keepsRepeats_of_sharp upTo_sharp
  | tagged _ _ => exact keepsPlaces_of_keepsKeys (keepsKeys_of_sharp upTo_sharp) _
  | literal l => exact literal_leaf upTo_sharp l
  | words options => exact words_leaf upTo_sharp options
  | enumeration entries => exact enumeration_leaf upTo_sharp entries
  | set _ _ => cases hs
  | intersection _ => cases hs
  | pipe _ _ => cases hs
  | modified m _ => exact upTo_modifies h
  | _ => exact trivial

end Likeness

end ValueSchema
