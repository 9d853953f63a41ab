/-
Keys that a record forges.

The guard of a record looks at the keys that come in. What stands in the output are the keys that
the key schema makes of them, and nothing looks at those. So a record whose key schema changes texts
can put out a key that is never allowed, although none came in: such a key is forged by the
transforms out of one that is allowed. This is the only way in, so which key schemas let such a key
through is told by what they make of texts, whatever the values of the record are.
-/
import ValueSchema.Proofs.Sanitised.Values
import ValueSchema.Evaluation
import Mathlib.Data.List.Induction

set_option autoImplicit false

namespace ValueSchema

/-! ## Forged keys -/

/-- A text schema accepts a key that is allowed and makes one of it that never is. -/
def TextSchema.Forges (t : TextSchema) : Prop :=
  ∃ key, Guard.isDangerous key = false ∧ t.firstFailure? key = none
    ∧ Guard.isDangerous (t.output key) = true

theorem TextSchema.output_eq_self {t : TextSchema} (h : t.transforms = []) (s : String) :
    t.output s = s := by
  unfold output
  rw [h]

/-- A schema without transforms hands keys on as they came. -/
theorem TextSchema.not_forges {t : TextSchema} (h : t.transforms = []) : ¬ t.Forges := by
  rintro ⟨key, hallowed, _, hdangerous⟩
  rw [output_eq_self h, hallowed] at hdangerous
  exact Bool.noConfusion hdangerous

/-! ## Transforms on one word -/

/-- The last transform that sets a case, if there is one. -/
def TextTransform.lastCasing (transforms : List TextTransform) : Option TextTransform :=
  transforms.reverse.find? fun x => x ≠ .trim

/-- A key that is never allowed, in capitals or as it is. -/
def builderWord (capitals : Bool) : List Char :=
  if capitals then "CONSTRUCTOR".toList else "constructor".toList

namespace TextTransform

/-- Whether a word of letters is in capitals behind a transform. -/
def raises (x : TextTransform) (capitals : Bool) : Bool :=
  match x with
  | trim => capitals
  | lowercase => false
  | uppercase => true

theorem apply_builderWord (x : TextTransform) (capitals : Bool) :
    x.apply (builderWord capitals) = builderWord (x.raises capitals) := by
  cases x <;> cases capitals <;> decide +kernel

/-- Transforms change the case of the word and nothing else. -/
theorem foldl_builderWord (transforms : List TextTransform) (capitals : Bool) :
    transforms.foldl (fun l x => x.apply l) (builderWord capitals)
      = builderWord (transforms.foldl (fun b x => x.raises b) capitals) := by
  induction transforms generalizing capitals with
  | nil => rfl
  | cons x rest ih =>
    rw [List.foldl_cons, apply_builderWord, ih, List.foldl_cons]

/-- What sets the case last decides. The induction takes transforms off the end. -/
theorem foldl_raises (transforms : List TextTransform) (capitals : Bool) :
    transforms.foldl (fun b x => x.raises b) capitals
      = match lastCasing transforms with
        | none => capitals
        | some x => x.raises capitals := by
  induction transforms using List.reverseRecOn with
  | nil => rfl
  | append_singleton before x ih =>
    have hlast : lastCasing (before ++ [x]) = if x = .trim then lastCasing before else some x := by
      unfold lastCasing
      rw [List.reverse_append, List.reverse_singleton, List.singleton_append, List.find?_cons]
      cases x <;> rfl
    rw [List.foldl_append, ih, hlast]
    cases x <;> rfl

end TextTransform

/-- Without checks, transforms forge keys as soon as there are any, unless capitals have the last
word: trimming bares a key that blanks hid, and lower case one that capitals hid. -/
theorem TextSchema.forges_of_transforms {transforms : List TextTransform} (limits : Limits)
    (hsome : transforms ≠ []) (hcasing : TextTransform.lastCasing transforms ≠ some .uppercase) :
    (TextSchema.mk [] transforms limits).Forges := by
  obtain ⟨x, rest, rfl⟩ := List.exists_cons_of_ne_nil hsome
  have hword : ∀ capitals, (x :: rest).foldl (fun b x => x.raises b) capitals = false →
      (TextSchema.mk [] (x :: rest) limits).output (String.ofList (builderWord capitals))
        = "constructor" := by
    intro capitals hlower
    simp only [output, String.toList_ofList]
    rw [TextTransform.foldl_builderWord, hlower]
    exact String.ofList_toList
  cases hlast : TextTransform.lastCasing (x :: rest) with
  | some y =>
    -- a case is set last, and it is the lower one
    refine ⟨"CONSTRUCTOR", by decide, rfl, ?_⟩
    have hlower : (x :: rest).foldl (fun b x => x.raises b) true = false := by
      rw [TextTransform.foldl_raises, hlast]
      cases y with
      | trim =>
        have hfound := List.find?_some hlast
        exact absurd hfound (by decide)
      | lowercase => rfl
      | uppercase => exact absurd hlast hcasing
    have hout := hword true hlower
    rw [builderWord, if_pos rfl, String.ofList_toList] at hout
    rw [hout]
    decide
  | none =>
    -- nothing but trims: the first one bares the word, and the others leave it
    refine ⟨" constructor", by decide, rfl, ?_⟩
    have htrim : x = .trim := by
      have hnone := List.find?_eq_none.mp hlast x (List.mem_reverse.mpr List.mem_cons_self)
      exact of_not_not (by simpa using hnone)
    have hfirst : x.apply " constructor".toList = builderWord false := by
      rw [htrim]
      decide +kernel
    have hrest : rest.foldl (fun b x => x.raises b) false = false := by
      have hall := TextTransform.foldl_raises (x :: rest) false
      rw [hlast, List.foldl_cons, htrim] at hall
      exact hall
    have hout : (TextSchema.mk [] (x :: rest) limits).output " constructor" = "constructor" := by
      simp only [output, List.foldl_cons]
      rw [hfirst, TextTransform.foldl_builderWord, hrest]
      exact String.ofList_toList
    rw [hout]
    decide

/-! ## Records -/

namespace Schema

/-- A record of which the keys are judged by a text schema. -/
def textRecord (t : TextSchema) (value : Schema) (limits : Limits) : Schema :=
  .record (some (.text t)) value limits

variable {t : TextSchema} {value : Schema} {limits : Limits} {family : Family} {v out : Value}
  {c : Context}

/-- Every key of the output was made of a key that the guard and the key schema let through. -/
theorem textRecord_key (h : (textRecord t value limits).validateIn family v c = some (.ok out))
    {key : String} (hkey : key ∈ out.ownKeys) :
    ∃ name ∈ v.ownKeys, Guard.isDangerous name = false ∧ t.firstFailure? name = none
      ∧ t.output name = key := by
  obtain ⟨id, input, entries, rfl, hguard, hentries, _, rfl⟩ := Record.judge_eq_ok h
  obtain ⟨f, hf, rfl⟩ := List.mem_map.mp hkey
  obtain ⟨e, he, hout⟩ := List.mem_filterMap.mp (Keyed.mem_of_mem_ofList hf)
  obtain ⟨k, hk, hname, _⟩ := Record.Entry.output?_eq_some hout
  obtain ⟨hmem, ⟨s, hjudged⟩, _⟩ := Record.judgeEntries_below hentries e he
  -- the verdict on the key is that of the text schema on the name
  have hrun : t.run (c.childKey e.key) (.string e.key) = .ok k := by
    rw [← hk]
    exact Option.some.inj hjudged
  have hpasses : t.firstFailure? e.key = none := by
    cases hfailure : t.firstFailure? e.key with
    | none => rfl
    | some failure =>
      simp only [TextSchema.run, hfailure] at hrun
      cases failure <;> cases hrun
  obtain ⟨x, hx, rfl⟩ := TextSchema.run_eq_ok hrun
  cases hx
  exact ⟨e.key, hmem, Guard.isDangerous_of_checkObject hguard _ hmem, hpasses, hname.symm⟩

/-- A record of anything puts out what the key schema makes of a single key. -/
theorem textRecord_single (t : TextSchema) {key : String} (hallowed : Guard.isDangerous key = false)
    (hpasses : t.firstFailure? key = none) :
    (textRecord t (.plain .any) Limits.standard).validateIn [] (.object (.given 0) [(key, .null)])
      Context.root = some (.ok (.object (.made 0 []) [(t.output key, .null)])) := by
  have hkeys : Guard.checkObject (Keyed.keys [(key, Value.null)]) Context.root.depth
      Limits.standard = .ok () := by
    have hfind : [key].find? Guard.isDangerous = none := by
      rw [List.find?_singleton, hallowed]
      rfl
    show Guard.checkKeys [key] = .ok ()
    unfold Guard.checkKeys
    rw [hfind]
  have hfields : guardedFields Limits.standard Context.root (.object (.given 0) [(key, .null)])
      = .ok [(key, .null)] := by
    simp only [guardedFields, hkeys]
  have hrun : ∀ c : Context, t.run c (.string key) = .ok (.string (t.output key)) := by
    intro c
    simp only [TextSchema.run, hpasses]
  show Record.judge (some fun _ v c => some (t.run c v))
    (fun _ v c => some (PlainSchema.any.run c v)) Limits.standard _ _ _ = _
  unfold Record.judge
  rw [hfields]
  simp only [Record.judgeEntries, Record.judgeKey, hrun]
  rfl

/-- **Which records put out a key that is never allowed.** Every such key was made by the key schema
of a key that is allowed, so records with a key schema put one out, for some value schema and some
input, exactly if it forges one; a key schema without transforms never does, and one without checks
does as soon as it has transforms, unless the last one that sets a case sets capitals. -/
theorem textRecord_emits_dangerous_iff_forges (t : TextSchema) :
    (∀ (value : Schema) (limits : Limits) (family : Family) (v out : Value) (c : Context),
      (textRecord t value limits).validateIn family v c = some (.ok out) →
      ∀ key ∈ out.ownKeys, Guard.isDangerous key = true →
        ∃ name ∈ v.ownKeys, Guard.isDangerous name = false ∧ t.firstFailure? name = none
          ∧ t.output name = key)
    ∧ ((∃ value limits family v out c,
        (textRecord t value limits).validateIn family v c = some (.ok out)
          ∧ ∃ key ∈ out.ownKeys, Guard.isDangerous key = true) ↔ t.Forges)
    ∧ (t.transforms = [] → ¬ t.Forges)
    ∧ (t.checks = [] → t.transforms ≠ [] →
      TextTransform.lastCasing t.transforms ≠ some .uppercase → t.Forges) := by
  refine ⟨fun value limits family v out c h key hkey _ => textRecord_key h hkey, ?_,
    TextSchema.not_forges, fun hchecks htransforms hcasing => ?_⟩
  · constructor
    · rintro ⟨value, limits, family, v, out, c, h, key, hkey, hdangerous⟩
      obtain ⟨name, _, hallowed, hpasses, rfl⟩ := textRecord_key h hkey
      exact ⟨name, hallowed, hpasses, hdangerous⟩
    · rintro ⟨key, hallowed, hpasses, hdangerous⟩
      exact ⟨_, _, _, _, _, _, textRecord_single t hallowed hpasses, t.output key,
        List.mem_cons_self, hdangerous⟩
  · obtain ⟨checks, transforms, limits⟩ := t
    obtain rfl : checks = [] := hchecks
    exact TextSchema.forges_of_transforms limits htransforms hcasing

/-- **A blank hides the key from the guard**, and trimming brings it out. -/
theorem textRecord_trims_to_proto :
    Guard.isDangerous "__proto__" = true
      ∧ (textRecord ⟨[], [.trim], Limits.standard⟩ (.plain .any) Limits.standard).validate []
          (.object (.given 0) [(" __proto__", .null)])
        = some (.ok (.object (.made 0 []) [("__proto__", .null)])) := by
  have hout : (TextSchema.mk [] [.trim] Limits.standard).output " __proto__" = "__proto__" := by
    decide +kernel
  refine ⟨by decide, ?_⟩
  have hallowed : Guard.isDangerous " __proto__" = false := by decide
  have hjudged := textRecord_single ⟨[], [.trim], Limits.standard⟩ hallowed rfl
  rw [hout] at hjudged
  exact hjudged

theorem textRecord_emits_dangerous_iff_forges_lowercase :
    (TextSchema.mk [] [.trim, .lowercase] Limits.standard).Forges
      ∧ (∃ value limits family v out c,
        (textRecord ⟨[], [.trim, .lowercase], Limits.standard⟩ value limits).validateIn family v c
            = some (.ok out)
          ∧ ∃ key ∈ out.ownKeys, Guard.isDangerous key = true)
      ∧ ¬ (TextSchema.mk [.nonempty] [] Limits.standard).Forges
      ∧ ∃ name ∈ (Value.object (.given 0) [(" __proto__", .null)]).ownKeys,
        Guard.isDangerous name = false
          ∧ (TextSchema.mk [] [.trim] Limits.standard).firstFailure? name = none
          ∧ (TextSchema.mk [] [.trim] Limits.standard).output name = "__proto__" := by
  obtain ⟨_, hemits, _, hforges⟩ :=
    textRecord_emits_dangerous_iff_forges ⟨[], [.trim, .lowercase], Limits.standard⟩
  obtain ⟨_, _, hkept, _⟩ :=
    textRecord_emits_dangerous_iff_forges ⟨[.nonempty], [], Limits.standard⟩
  obtain ⟨hmade, _, _, _⟩ := textRecord_emits_dangerous_iff_forges ⟨[], [.trim], Limits.standard⟩
  have hlower := hforges rfl (by decide) (by decide)
  have hjudged : (textRecord ⟨[], [.trim], Limits.standard⟩ (.plain .any)
      Limits.standard).validateIn [] (.object (.given 0) [(" __proto__", .null)]) Context.root
      = some (.ok (.object (.made 0 []) [("__proto__", .null)])) := rfl
  exact ⟨hlower, hemits.mpr hlower, hkept rfl,
    hmade _ _ _ _ _ _ hjudged "__proto__" List.mem_cons_self (by decide)⟩

end Schema

end ValueSchema
