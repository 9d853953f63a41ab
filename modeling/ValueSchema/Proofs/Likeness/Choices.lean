/-
Likenesses of unions, intersections, modifiers and pipes.

These judge one value several times, or judge what another schema put out. Judging one value
several times needs nothing of the likeness; the rest reads outputs, so each of these theorems
names what it reads. A tagged union looks a key up, an intersection merges outputs, a pipe makes
an input of an output, and the code of a caller's must not tell apart what is alike.
-/
import ValueSchema.Proofs.Likeness.Tests
import ValueSchema.Judgement.Union
import ValueSchema.Judgement.Intersection
import ValueSchema.Judgement.Modified

set_option autoImplicit false

namespace ValueSchema

namespace Likeness

open List (Forall₂)

variable {L : Likeness} {s s' : Site} {v v' : Value} {c c' : Context}

/-! ## Unions -/

section

variable {σ : Type} {j j' : σ → Judge} {t t' : σ → Test}

theorem firstOutput?_like (hs : L.site s s') (hv : L.input v v') (hc : L.context c c')
    {options : List σ} (h : ∀ x ∈ options, L.Judges (j x) (j' x)) : ∀ n : Nat,
    Option.Rel (Option.Rel L.output) (Union.firstOutput? s v c n (options.map j))
      (Union.firstOutput? s' v' c' n (options.map j')) := by
  induction options with
  | nil => exact fun _ => .some .none
  | cons x rest ih =>
    intro n
    simp only [List.forall_mem_cons] at h
    refine Option.Rel.bind (h.1 (L.site_child n hs) hv hc) fun a b hab => ?_
    -- an accepting option ends the search on both sides
    cases hab with
    | ok hout => exact .some (.some hout)
    | error _ => exact ih h.2 (n + 1)

theorem union_judge {options : List σ} (h : ∀ x ∈ options, L.Judges (j x) (j' x)) :
    L.Judges (Union.judge (options.map j)) (Union.judge (options.map j')) := by
  intro s s' v v' c c' hs hv hc
  refine Option.Rel.bind (firstOutput?_like hs hv hc h 0) fun a b hab => ?_
  cases hab with
  | some hout => exact .some (.ok hout)
  | none =>
    -- the issues of options are dropped: only their number is reported
    have hlocal : ∀ c, Union.noMatch c options.length
        = (Union.noMatch Context.root options.length).atPath c.path := fun _ => rfl
    rw [List.length_map, List.length_map]
    exact .some (verdict_reject (issues_local hlocal hc))

theorem firstPassing?_eq (hs : L.site s s') (hv : L.input v v') (depth : Nat)
    {options : List σ} (h : ∀ x ∈ options, L.Tests (t x) (t' x)) : ∀ n : Nat,
    Union.firstPassing? s v depth n (options.map t)
      = Union.firstPassing? s' v' depth n (options.map t') := by
  induction options with
  | nil => exact fun _ => rfl
  | cons x rest ih =>
    intro n
    simp only [List.forall_mem_cons] at h
    simp only [List.map_cons, Union.firstPassing?]
    rw [h.1 depth (L.site_child n hs) hv, ih h.2 (n + 1)]

theorem union_test {options : List σ} (h : ∀ x ∈ options, L.Tests (t x) (t' x)) :
    L.Tests (Union.test (options.map t)) (Union.test (options.map t')) := by
  intro s s' v v' depth hs hv
  simp only [Union.test]
  rw [firstPassing?_eq hs hv depth h 0]

/-! ## Tagged unions -/

/-- Among some literals, tags that are alike find the same one. -/
def KeepsPlaces (L : Likeness) (literals : List (Option Value)) : Prop :=
  ∀ ⦃v w : Value⦄, L.input v w →
    Tagged.placeOf? v.key literals = Tagged.placeOf? w.key literals

/-- A tag is looked up by its key. -/
theorem keepsPlaces_of_keepsKeys (hk : L.KeepsKeys) (literals : List (Option Value)) :
    L.KeepsPlaces literals := fun _ _ h => by rw [hk h]

/-- The tag selects one option on both sides. -/
theorem select?_eq (discriminator : String) {literals : List (Option Value)}
    (hk : L.KeepsPlaces literals) {fields others : List (String × Value)}
    (h : Forall₂ (Keyed.Like L.input) fields others) :
    Tagged.select? discriminator literals fields
      = Tagged.select? discriminator literals others := by
  simp only [Tagged.select?]
  -- a tag is there on both sides or on neither
  rcases (Keyed.find?_like discriminator h).eq_or with ⟨hx, hy⟩ | ⟨x, y, hx, hy, hxy⟩
  · rw [hx, hy]
  · rw [hx, hy, Option.bind_some, Option.bind_some, hk hxy]

theorem issues_tagged (discriminator : String) (literals : List (Option Value))
    (hc : L.context c c') {fields others : List (String × Value)}
    (h : Forall₂ (Keyed.Like L.input) fields others) :
    L.issues [Tagged.noMatch discriminator literals c fields]
      [Tagged.noMatch discriminator literals c' others] := by
  have hbare := L.issues_here ((Issue.new .invalidDiscriminator
    ("Invalid discriminator value. Expected " ++ Tagged.expected literals)).withExpected
    (Tagged.expected literals)) (L.context_atKey discriminator hc)
  simp only [Tagged.noMatch]
  rcases (Keyed.find?_like discriminator h).eq_or with ⟨hx, hy⟩ | ⟨x, y, hx, hy, hxy⟩
  · rw [hx, hy]; exact hbare
  · rw [hx, hy]; exact L.issues_received hbare hxy

theorem tagged_judge (discriminator : String) {literals : List (Option Value)}
    (hk : L.KeepsPlaces literals) {options : List σ}
    (h : ∀ x ∈ options, L.Judges (j x) (j' x)) :
    L.Judges (Tagged.judge discriminator literals (options.map j))
      (Tagged.judge discriminator literals (options.map j')) := by
  intro s s' v v' c c' hs hv hc
  cases L.input_parts hv with
  | @object _ _ fields others hin =>
    simp only [Tagged.judge, select?_eq discriminator hk hin, List.getElem?_map]
    -- the same option answers, or the same issue names the literals
    cases Tagged.select? discriminator literals others with
    | none => exact .some (verdict_reject (issues_tagged discriminator literals hc hin))
    | some n =>
      cases hn : options[n]? with
      | none =>
        have hbare : L.answer _ _ :=
          .some (verdict_reject (issues_tagged discriminator literals hc hin))
        simpa [hn] using hbare
      | some x => simpa [hn] using h x (List.mem_of_getElem? hn) (L.site_child n hs) hv hc
  | @plain v hp =>
    have hmis := verdict_reject (issues_typeMismatch hc .notObject "object" hv)
    cases v <;> first | exact .some hmis | simp [Value.isComposite, Value.ident?] at hp
  | array _ => exact .some (verdict_reject (issues_typeMismatch hc .notObject "object" hv))
  | map _ => exact .some (verdict_reject (issues_typeMismatch hc .notObject "object" hv))
  | set _ => exact .some (verdict_reject (issues_typeMismatch hc .notObject "object" hv))

theorem tagged_test (discriminator : String) {literals : List (Option Value)}
    (hk : L.KeepsPlaces literals) {options : List σ}
    (h : ∀ x ∈ options, L.Tests (t x) (t' x)) :
    L.Tests (Tagged.test discriminator literals (options.map t))
      (Tagged.test discriminator literals (options.map t')) := by
  intro s s' v v' depth hs hv
  cases L.input_parts hv with
  | @object _ _ fields others hin =>
    simp only [Tagged.test, select?_eq discriminator hk hin, List.getElem?_map]
    cases Tagged.select? discriminator literals others with
    | none => rfl
    | some n =>
      cases hn : options[n]? with
      | none => simp [hn]
      | some x => simpa [hn] using h x (List.mem_of_getElem? hn) depth (L.site_child n hs) hv
  | @plain v h => cases v <;> first | rfl | simp [Value.isComposite, Value.ident?] at h
  | array _ => rfl
  | map _ => rfl
  | set _ => rfl

/-! ## Intersections -/

/-- Outputs that are alike merge to what is alike, or conflict on both sides. -/
def KeepsMerging (L : Likeness) : Prop :=
  ∀ ⦃s s' : Site⦄ ⦃l l' : List Value⦄, L.site s s' → Forall₂ L.output l l' →
    Option.Rel L.output (Intersection.mergeAll s l) (Intersection.mergeAll s' l')

/-- Equal outputs merge to one output, and are in conflict together. -/
theorem keepsMerging_of_eq (hsite : ∀ {s s' : Site}, L.site s s' → s = s')
    (hout : ∀ {v w : Value}, L.output v w ↔ v = w) : L.KeepsMerging := by
  intro s s' l l' hs hl
  have heq : l = l' := by
    rw [← List.forall₂_eq_eq_eq]
    exact hl.imp fun _ _ h => hout.mp h
  rw [hsite hs, heq]
  cases Intersection.mergeAll s' l' with
  | none => exact .none
  | some v => exact .some (hout.mpr rfl)

theorem keepsSameness_of_eq (hout : ∀ {v w : Value}, L.output v w → v = w) : L.KeepsSameness := by
  intro v v' w w' hv hw
  rw [hout hv, hout hw]

theorem judgeBranches_like (hs : L.site s s') (hv : L.input v v') (hc : L.context c c')
    {branches : List σ} (h : ∀ x ∈ branches, L.Judges (j x) (j' x)) : ∀ n : Nat,
    Option.Rel (Forall₂ L.verdict) (Intersection.judgeBranches s v c n (branches.map j))
      (Intersection.judgeBranches s' v' c' n (branches.map j')) := by
  induction branches with
  | nil => exact fun _ => .some .nil
  | cons x rest ih =>
    intro n
    simp only [List.forall_mem_cons] at h
    refine Option.Rel.bind (h.1 (L.site_child n hs) hv hc) fun a b hab => ?_
    refine Option.Rel.bind (ih h.2 (n + 1)) fun l m hlm => ?_
    exact .some (.cons hab hlm)

/-- Like verdicts combine to like verdicts if their outputs, once there is no issue, merge alike. -/
theorem combine_like (hc : L.context c c') {l l' : List Verdict} (h : Forall₂ L.verdict l l')
    (hm : Verdict.allIssues l = [] → Option.Rel L.output
      (Intersection.mergeAll (s.child l.length) (Verdict.outputs l))
      (Intersection.mergeAll (s'.child l'.length) (Verdict.outputs l'))) :
    L.verdict (Intersection.combine s c l) (Intersection.combine s' c' l') := by
  have hissues := allIssues_like h
  have hnil := L.issues_eq_nil hissues
  have hconflict := verdict_reject (issues_issue hc .intersectionConflict
    "Intersection results could not be merged")
  simp only [Intersection.combine]
  -- outputs are merged only where no branch raised an issue
  cases hl : Verdict.allIssues l with
  | nil =>
    rw [hnil.mp hl]
    simp only [Issues.ofList?]
    rcases (hm hl).eq_or with ⟨hx, hy⟩ | ⟨x, y, hx, hy, hxy⟩
    · rw [hx, hy]; exact hconflict
    · rw [hx, hy]; exact .ok hxy
  | cons i rest =>
    cases hl' : Verdict.allIssues l' with
    | nil => exact absurd (hnil.mpr hl') (by rw [hl]; exact List.cons_ne_nil _ _)
    | cons i' rest' =>
      rw [hl, hl'] at hissues
      exact .error hissues

theorem intersection_judge (hm : L.KeepsMerging) {branches : List σ}
    (h : ∀ x ∈ branches, L.Judges (j x) (j' x)) :
    L.Judges (Intersection.judge (branches.map j)) (Intersection.judge (branches.map j')) := by
  intro s s' v v' c c' hs hv hc
  refine Option.Rel.map (judgeBranches_like hs hv hc h 0) fun l l' hl => ?_
  refine combine_like hc hl fun _ => ?_
  rw [hl.length_eq]
  exact hm (L.site_child l'.length hs) (outputs_like hl)

end

/-! ## Handing outputs on -/

/-- An accepted value is handed on alike; an issue stops both. -/
theorem andThen_like {R : Value → Value → Prop} {a b : Verdict}
    (hab : Verdict.Like R L.issues a b) {f g : Value → Option Verdict}
    (hfg : ∀ v w, R v w → L.answer (f v) (g w)) : L.answer (a.andThen f) (b.andThen g) := by
  cases hab with
  | ok h => exact hfg _ _ h
  | error h => exact .some (.error h)

/-- What one schema puts out alike, the next one is given alike. -/
def Chains (L : Likeness) : Prop := ∀ ⦃v w : Value⦄, L.output v w → L.input v w

theorem pipe_judge (hchain : L.Chains) {j j' k k' : Judge} (h : L.Judges j j')
    (hk : L.Judges k k') : L.Judges (j.pipe k) (j'.pipe k') := by
  intro s s' v v' c c' hs hv hc
  -- an output of the first schema becomes an input of the next
  refine Option.Rel.bind (h (L.site_child 0 hs) hv hc) fun a b hab => ?_
  exact andThen_like hab fun x y hxy => hk (L.site_child 1 hs) (hchain hxy) hc

/-! ## Calls -/

/-- A check on outputs that does not tell apart what is alike. -/
def Checks (L : Likeness) (check : Context → Value → Verdict) : Prop :=
  ∀ ⦃c c' : Context⦄ ⦃v w : Value⦄, L.context c c' → L.output v w →
    L.verdict (check c v) (check c' w)

/-- A mapper that answers alike values with alike values, and crashes and fails alike. -/
def Maps (L : Likeness) (R : Value → Value → Prop) (mapper : Mapper) : Prop :=
  ∀ ⦃s s' : Site⦄ ⦃v w : Value⦄, L.site s s' → R v w →
    Except.Like Eq (Except.Like Eq R) (mapper s v) (mapper s' w)

/-- The code that a modifier calls does not tell apart what is alike, and the value that it puts in
the place of another is alike to itself. -/
def Modifies (L : Likeness) (mode : Mode) : Modifier → Prop
  | .refine check text => L.Checks fun c v => Verdict.ofCheck (check v) text c v
  | .superRefine refiner => L.Checks fun c v => Verdict.ofRefiner refiner c v
  | .transform mapper => L.Maps L.output mapper
  | .preprocess mapper => L.Maps L.input mapper
  | .refineAsync check text =>
    mode = .async → L.Checks fun c v => Verdict.ofCheck (check v).await text c v
  | .transformAsync mapper => mode = .async → L.Maps L.output fun s v => (mapper s v).await
  | .preprocessAsync mapper => mode = .async → L.Maps L.input fun s v => (mapper s v).await
  | .default standard => L.input standard standard
  | .fallback replacement => L.input replacement replacement
  | _ => True

theorem mapped_refl {R : Value → Value → Prop} (hR : ∀ v, R v v) (a : Except Crash Mapped) :
    Except.Like Eq (Except.Like Eq R) a a := by
  rcases a with crash | mapped
  · exact .error rfl
  · rcases mapped with message | v
    · exact .ok (.error rfl)
    · exact .ok (.ok (hR v))

/-- One answer of a predicate about alike values makes alike verdicts. -/
theorem ofCheck_like (answer : Except Crash Bool) (text : String) (hc : L.context c c')
    (hv : L.output v v') :
    L.verdict (Verdict.ofCheck answer text c v) (Verdict.ofCheck answer text c' v') := by
  rcases answer with crash | b
  · exact verdict_reject (issues_issue hc _ _)
  · cases b with
    | true => exact .ok hv
    | false => exact verdict_reject (issues_issue hc _ _)

theorem mapped_like (hc : L.context c c') {R : Value → Value → Prop}
    {a b : Except Crash Mapped} (h : Except.Like Eq (Except.Like Eq R) a b) :
    Verdict.Like R L.issues (Verdict.ofMapped a c) (Verdict.ofMapped b c') := by
  -- a crash and a failure carry one message on both sides
  cases h with
  | error hef =>
    subst hef
    exact .error (issues_issue hc _ _)
  | ok hab =>
    cases hab with
    | ok h => exact .ok h
    | error hef =>
      subst hef
      exact .error (issues_issue hc _ _)

theorem mapInput_judge {mapper : Mapper} (hm : L.Maps L.input mapper) {j j' : Judge}
    (h : L.Judges j j') : L.Judges (j.mapInput mapper) (j'.mapInput mapper) := by
  intro s s' v v' c c' hs hv hc
  refine andThen_like (mapped_like hc (hm (L.site_child 0 hs) hv)) fun x y hxy => ?_
  exact h (L.site_child 1 hs) hxy hc

theorem mapOutput_judge {mapper : Mapper} (hm : L.Maps L.output mapper) {j j' : Judge}
    (h : L.Judges j j') : L.Judges (j.mapOutput mapper) (j'.mapOutput mapper) := by
  intro s s' v v' c c' hs hv hc
  refine Option.Rel.bind (h (L.site_child 0 hs) hv hc) fun a b hab => ?_
  exact andThen_like hab fun x y hxy => .some (mapped_like hc (hm (L.site_child 1 hs) hxy))

theorem checkOutput_judge {check : Context → Value → Verdict} (hk : L.Checks check)
    {j j' : Judge} (h : L.Judges j j') :
    L.Judges (j.checkOutput check) (j'.checkOutput check) := by
  intro s s' v v' c c' hs hv hc
  refine Option.Rel.bind (h hs hv hc) fun a b hab => ?_
  exact andThen_like hab fun x y hxy => .some (hk hc hxy)

/-! ## Modifiers -/

theorem message_like (text : String) (hc : L.context c c') {a b : Verdict}
    (hab : L.verdict a b) :
    L.verdict (a.mapError (Issues.overrideMessage c.path text))
      (b.mapError (Issues.overrideMessage c'.path text)) := by
  cases hab with
  | ok h => exact .ok h
  | error h => exact .error (L.issues_override text hc h)

/-- What a default puts in the place of undefined is alike. -/
theorem standard_like {standard : Value} (hstandard : L.input standard standard)
    (hv : L.input v v') :
    L.input (if v.isUndefined then standard else v) (if v'.isUndefined then standard else v') := by
  rw [(L.input_parts hv).isUndefined_eq]
  split
  · exact hstandard
  · exact hv

theorem modifier_judge {mode : Mode} {m : Modifier} (hm : L.Modifies mode m) {j j' : Judge}
    (h : L.Judges j j') : L.Judges (m.judge mode j) (m.judge mode j') := by
  intro s s' v v' c c' hs hv hc
  have hparts := L.input_parts hv
  cases m with
  | optional =>
    simp only [Modifier.judge, hparts.isUndefined_eq]
    split
    · exact .some (.ok (L.output_of_input (L.input_plain rfl)))
    · exact h hs hv hc
  | nullable =>
    simp only [Modifier.judge, hparts.isNull_eq]
    split
    · exact .some (.ok (L.output_of_input (L.input_plain rfl)))
    · exact h hs hv hc
  | nullish =>
    simp only [Modifier.judge, hparts.isUndefined_eq, hparts.isNull_eq]
    split
    · exact .some (.ok (L.output_of_input hv))
    · exact h hs hv hc
  | default standard => exact h hs (standard_like hm hv) hc
  | fallback replacement =>
    refine Option.Rel.bind (h hs hv hc) fun a b hab => ?_
    cases hab with
    | ok hout => exact .some (.ok hout)
    | error _ => exact .some (.ok (L.output_of_input hm))
  | message text => exact Option.Rel.map (h hs hv hc) fun _ _ hab => message_like text hc hab
  | refine check text => exact checkOutput_judge hm h hs hv hc
  | superRefine refiner => exact checkOutput_judge hm h hs hv hc
  | transform mapper => exact mapOutput_judge hm h hs hv hc
  | preprocess mapper => exact mapInput_judge hm h hs hv hc
  | refineAsync check text =>
    cases mode with
    | sync => exact h hs hv hc
    | async => exact checkOutput_judge (hm rfl) h hs hv hc
  | transformAsync mapper =>
    cases mode with
    | sync => exact h hs hv hc
    | async => exact mapOutput_judge (hm rfl) h hs hv hc
  | preprocessAsync mapper =>
    cases mode with
    | sync => exact h hs hv hc
    | async => exact mapInput_judge (hm rfl) h hs hv hc

/-! ## Tests that judge -/

/-- A test stands at the root of its path, which has to be alike to itself. -/
def Rooted (L : Likeness) : Prop :=
  ∀ depth : Nat, L.context (Context.withDepth depth) (Context.withDepth depth)

theorem toTest_test (hroot : L.Rooted) {j j' : Judge} (h : L.Judges j j') :
    L.Tests j.toTest j'.toTest := by
  intro s s' v v' depth hs hv
  simp only [Judge.toTest]
  -- a test keeps of the verdict whether it accepts
  rcases (h hs hv (hroot depth)).eq_or with ⟨hx, hy⟩ | ⟨a, b, hx, hy, hab⟩
  · rw [hx, hy]
  · rw [hx, hy, Option.map_some, Option.map_some]
    exact congrArg some (verdict_isOk hab)

theorem modifier_test {mode : Mode} {m : Modifier} (hroot : L.Rooted) (hm : L.Modifies mode m)
    {t t' : Test} (ht : L.Tests t t') {full full' : Judge} (h : L.Judges full full') :
    L.Tests (m.test t full) (m.test t' full') := by
  intro s s' v v' depth hs hv
  have hparts := L.input_parts hv
  have hfull := toTest_test hroot h depth hs hv
  have hinner := ht depth hs hv
  cases m with
  | optional => simp only [Modifier.test, hparts.isUndefined_eq, hinner]
  | nullable => simp only [Modifier.test, hparts.isNull_eq, hinner]
  | nullish => simp only [Modifier.test, hparts.isUndefined_eq, hparts.isNull_eq, hinner]
  | default standard => exact ht depth hs (standard_like hm hv)
  | fallback _ => rfl
  | refine _ _ => exact hfull
  | superRefine _ => exact hfull
  | transform _ => exact hfull
  | preprocess _ => exact hfull
  | message _ => exact hinner
  | refineAsync _ _ => exact hinner
  | transformAsync _ => exact hinner
  | preprocessAsync _ => exact hinner

end Likeness

end ValueSchema
