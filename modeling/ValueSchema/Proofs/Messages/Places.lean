/-
Where judgements report.

A judgement is asked about a value at a path, and whatever it reports it reports at that path or
below: a leaf says what it says about the value itself, a container goes on with longer paths, and
callers' code is told the path and can only add to it. Paths reach each other as an order, so what
stands below a child never stands at its parent, as long as the child has a path of its own. There
is one child without: the root has the empty path, and so has the part of it under the empty key.
-/
import ValueSchema.Proofs.Messages.Inquiries
import ValueSchema.Proofs.Rerooting.Paths

set_option autoImplicit false

namespace ValueSchema

/-! ## Paths below paths -/

namespace Context

/-- A path is another one or goes on from it. -/
def Reaches (p path : String) : Prop := path = p ∨ ∃ rest, path = join p rest

namespace Reaches

variable {p q r : String}

theorem refl (p : String) : Reaches p p := .inl rfl

theorem of_eq (h : q = p) : Reaches p q := .inl h

theorem join (p name : String) : Reaches p (join p name) := .inr ⟨name, rfl⟩

/-- Everything lies below the root. -/
theorem of_root (path : String) : Reaches "" path := join "" path

theorem rebase (p path : String) : Reaches p (rebase p path) := by
  unfold Context.rebase
  split
  · exact refl p
  · exact join p path

theorem trans (hpq : Reaches p q) (hqr : Reaches q r) : Reaches p r := by
  by_cases hp : p = ""
  · subst hp
    exact of_root r
  · rcases hpq with rfl | ⟨a, rfl⟩
    · exact hqr
    · rcases hqr with rfl | ⟨b, rfl⟩
      · exact join p a
      · -- two segments after each other are one
        refine .inr ⟨a ++ "." ++ b, ?_⟩
        rw [join_of_ne (join_ne_root hp a), join_of_ne hp, join_of_ne hp]
        simp only [String.append_assoc]

theorem length_le (h : Reaches p q) : p.length ≤ q.length := by
  rcases h with rfl | ⟨a, rfl⟩
  · exact Nat.le_refl _
  · by_cases hp : p = ""
    · subst hp
      exact Nat.zero_le _
    · rw [join_of_ne hp]
      simp only [String.length_append]
      omega

/-- What goes on from a path is longer, unless it is the path. -/
theorem eq_of_length_le (h : Reaches p q) (hlen : q.length ≤ p.length) : q = p := by
  rcases h with rfl | ⟨a, rfl⟩
  · rfl
  · by_cases hp : p = ""
    · subst hp
      exact String.length_eq_zero_iff.mp (Nat.le_zero.mp hlen)
    · have hpoint : ".".length = 1 := rfl
      rw [join_of_ne hp] at hlen
      simp only [String.length_append] at hlen
      omega

theorem antisymm (hpq : Reaches p q) (hqp : Reaches q p) : q = p :=
  eq_of_length_le hpq (length_le hqp)

/-- Nothing below a path of its own is at the path above. -/
theorem ne_of_ne (hpq : Reaches p q) (hne : q ≠ p) (hqr : Reaches q r) : r ≠ p := by
  rintro rfl
  exact hne (antisymm hpq hqr)

end Reaches

/-- Only the empty key below the root leads to no path of its own. -/
theorem join_eq_self_iff {p name : String} : join p name = p ↔ p = "" ∧ name = "" := by
  constructor
  · intro h
    by_cases hp : p = ""
    · subst hp
      exact ⟨rfl, h⟩
    · have hlen := congrArg String.length h
      have hpoint : ".".length = 1 := rfl
      rw [join_of_ne hp] at hlen
      simp only [String.length_append] at hlen
      omega
  · rintro ⟨rfl, rfl⟩
    rfl

theorem join_repr_ne (p : String) (n : Nat) : join p (Nat.repr n) ≠ p := by
  intro h
  have hempty := (join_eq_self_iff.mp h).2
  exact Nat.ne_of_gt Nat.length_repr_pos (congrArg String.length hempty)

end Context

open Context (Reaches)

/-! ## Reports about a value -/

/-- The issues of a verdict are about the value at a context or about parts of it. -/
def Verdict.Within (c : Context) (verdict : Verdict) : Prop :=
  ∀ i ∈ verdict.issues, Reaches c.path i.path

/-- A judge reports about the value that it is asked about. -/
def Judge.ReportsWithin (judge : Judge) : Prop :=
  ∀ ⦃s : Site⦄ ⦃v : Value⦄ ⦃c : Context⦄ ⦃verdict : Verdict⦄,
    judge s v c = some verdict → verdict.Within c

section Verdicts

variable {c : Context} {verdict : Verdict}

namespace Verdict

theorem within_ok (v : Value) : Within c (.ok v) := fun _ hi => absurd hi List.not_mem_nil

theorem within_reject {i : Issue} (h : Reaches c.path i.path) : Within c (reject i) := by
  intro j hj
  cases List.mem_singleton.mp hj
  exact h

/-- An issue about the value itself. -/
theorem within_here {i : Issue} (h : i.path = c.path) : Within c (reject i) :=
  within_reject (.of_eq h)

theorem within_map {f : Issue → Issue} (hf : ∀ i, (f i).path = i.path) (h : verdict.Within c) :
    Within c (verdict.mapError (Issues.map f)) := by
  cases verdict with
  | ok v => exact within_ok v
  | error e =>
    intro i hi
    have hmem : i ∈ e.toList.map f := hi
    obtain ⟨j, hj, rfl⟩ := List.mem_map.mp hmem
    rw [hf j]
    exact h j hj

/-- A rejection with issues that were collected. -/
theorem within_of_ofList? {l : List Issue} {e : Issues} (he : Issues.ofList? l = some e)
    (h : ∀ i ∈ l, Reaches c.path i.path) : Within c (.error e) := by
  intro i hi
  have hmem : i ∈ e.toList := hi
  rw [Issues.toList_of_ofList? he] at hmem
  exact h i hmem

theorem within_ofCheck (answer : Except Crash Bool) (text : String) (v : Value) :
    Within c (ofCheck answer text c v) := by
  unfold ofCheck
  rcases answer with crash | b
  · exact within_here rfl
  · cases b
    · exact within_here rfl
    · exact within_ok v

theorem within_ofMapped (answer : Except Crash Mapped) : Within c (ofMapped answer c) := by
  unfold ofMapped
  rcases answer with crash | failure | v
  · exact within_here rfl
  · exact within_here rfl
  · exact within_ok v

theorem reaches_toIssue (r : Report) : Reaches c.path (r.toIssue c).path := by
  cases r with
  | here text => exact Reaches.refl c.path
  | below path text => exact Reaches.join c.path path
  | issue i => exact Reaches.rebase c.path i.path

/-- A refiner reports about the value that it is told the path of, or below. -/
theorem within_ofRefiner (refiner : Refiner) (v : Value) : Within c (ofRefiner refiner c v) := by
  unfold ofRefiner
  dsimp only
  split
  · refine within_of_ofList? ‹_› fun i hi => ?_
    obtain ⟨r, _, rfl⟩ := List.mem_map.mp hi
    exact reaches_toIssue r
  · exact within_ofCheck _ _ _

/-- What follows an accepting verdict reports for both. -/
theorem within_andThen {next : Value → Option Verdict} {r : Verdict} (h : verdict.Within c)
    (hnext : ∀ v, ∀ r ∈ next v, Within c r) (hr : verdict.andThen next = some r) :
    r.Within c := by
  cases verdict with
  | ok v => exact hnext v r hr
  | error e =>
    cases hr
    exact h

end Verdict

/-- What is found about a value alone is found where it stands. -/
theorem Local.within {run : Context → Value → Verdict} (h : Local run) (v : Value) :
    Verdict.Within c (run c v) := by
  -- the value is looked at where it stands as it is at the root
  have hroot : run c v = (run ⟨"", c.depth⟩ v).under c.path := h c.path ⟨"", c.depth⟩ v
  intro i hi
  rw [hroot, Verdict.issues_under] at hi
  obtain ⟨j, _, rfl⟩ := List.mem_map.mp hi
  exact Reaches.rebase c.path j.path

end Verdicts

/-! ## Judges around judges -/

namespace Judge.ReportsWithin

variable {judge inner first next : Judge}

theorem leaf {run : Context → Value → Verdict} {accepts : Value → Bool} (h : Local run) :
    (Evaluator.leaf run accepts).judge.ReportsWithin := by
  intro s v c verdict hv
  cases hv
  exact h.within v

theorem pipe (hfirst : first.ReportsWithin) (hnext : next.ReportsWithin) :
    (first.pipe next).ReportsWithin := by
  intro s v c verdict hv
  obtain ⟨r, hr, hv⟩ := Option.bind_eq_some_iff.mp hv
  exact Verdict.within_andThen (hfirst hr) (fun _ _ h => hnext h) hv

theorem mapInput (answer : Site → Value → Except Crash Mapped) (h : inner.ReportsWithin) :
    (inner.mapInput answer).ReportsWithin := by
  intro s v c verdict hv
  exact Verdict.within_andThen (Verdict.within_ofMapped _) (fun _ _ hr => h hr) hv

theorem mapOutput (answer : Site → Value → Except Crash Mapped) (h : inner.ReportsWithin) :
    (inner.mapOutput answer).ReportsWithin := by
  intro s v c verdict hv
  obtain ⟨r, hr, hv⟩ := Option.bind_eq_some_iff.mp hv
  refine Verdict.within_andThen (h hr) (fun output r' hr' => ?_) hv
  cases hr'
  exact Verdict.within_ofMapped _

theorem checkOutput {check : Context → Value → Verdict} (hcheck : ∀ c v, (check c v).Within c)
    (h : inner.ReportsWithin) : (inner.checkOutput check).ReportsWithin := by
  intro s v c verdict hv
  obtain ⟨r, hr, hv⟩ := Option.bind_eq_some_iff.mp hv
  refine Verdict.within_andThen (h hr) (fun output r' hr' => ?_) hv
  cases hr'
  exact hcheck c output

/-- A modifier reports about the value, wherever it looks at it. -/
theorem modifier (mode : Mode) (m : Modifier) (h : inner.ReportsWithin) :
    (m.judge mode inner).ReportsWithin := by
  cases m with
  | optional | nullable | nullish =>
    intro s v c verdict hv
    simp only [Modifier.judge] at hv
    split at hv
    · cases hv
      exact Verdict.within_ok _
    · exact h hv
  | default standard => exact fun _ _ _ _ hv => h hv
  | fallback replacement =>
    intro s v c verdict hv
    obtain ⟨r, hr, hv⟩ := Option.bind_eq_some_iff.mp hv
    cases r <;> cases hv <;> exact Verdict.within_ok _
  | message text =>
    intro s v c verdict hv
    obtain ⟨r, hr, rfl⟩ := Option.map_eq_some_iff.mp hv
    refine Verdict.within_map (fun i => ?_) (h hr)
    split <;> rfl
  | refine check text => exact checkOutput (fun _ _ => Verdict.within_ofCheck _ _ _) h
  | superRefine refiner => exact checkOutput (fun _ _ => Verdict.within_ofRefiner _ _) h
  | transform mapper => exact mapOutput mapper h
  | preprocess mapper => exact mapInput mapper h
  | refineAsync check text =>
    cases mode with
    | sync => exact h
    | async => exact checkOutput (fun _ _ => Verdict.within_ofCheck _ _ _) h
  | transformAsync mapper =>
    cases mode with
    | sync => exact h
    | async => exact mapOutput (fun s v => (mapper s v).await) h
  | preprocessAsync mapper =>
    cases mode with
    | sync => exact h
    | async => exact mapInput (fun s v => (mapper s v).await) h

theorem union (options : List Judge) : (Union.judge options).ReportsWithin := by
  intro s v c verdict hv
  obtain ⟨output?, _, hv⟩ := Option.bind_eq_some_iff.mp hv
  cases output? with
  | some output =>
    cases hv
    exact Verdict.within_ok output
  | none =>
    cases hv
    exact Verdict.within_here rfl

theorem intersection {branches : List Judge} (h : ∀ j ∈ branches, j.ReportsWithin) :
    (Intersection.judge branches).ReportsWithin := by
  intro s v c verdict hv
  obtain ⟨l, hl, rfl⟩ := Option.map_eq_some_iff.mp hv
  unfold Intersection.combine
  split
  · refine Verdict.within_of_ofList? ‹_› fun i hi => ?_
    obtain ⟨r, hr, hi⟩ := List.mem_flatMap.mp hi
    obtain ⟨j, hj, m, hm⟩ := Intersection.judgeBranches_mem hl r hr
    exact h j hj hm i hi
  · split
    · exact Verdict.within_ok _
    · exact Verdict.within_here rfl

end Judge.ReportsWithin

/-! ## The own issues of containers -/

section Own

variable {limits : Limits} {c : Context} {v : Value} {i : Issue}

theorem guardedFields_path (h : guardedFields limits c v = .error i) : i.path = c.path := by
  unfold guardedFields at h
  split at h
  · split at h
    · cases h
    · cases h
      rfl
  · cases h
    rfl

theorem guardedItems_path (h : guardedItems limits c v = .error i) : i.path = c.path := by
  unfold guardedItems at h
  split at h
  · split at h
    · cases h
    · cases h
      rfl
  · cases h
    rfl

theorem SizeFault.issue_path (f : SizeFault) (noun : String) : (f.issue noun c).path = c.path := by
  cases f <;> rfl

theorem Tagged.noMatch_path (discriminator : String) (literals : List (Option Value))
    (fields : List (String × Value)) :
    (noMatch discriminator literals c fields).path = Context.join c.path discriminator := by
  unfold noMatch
  dsimp only
  split <;> rfl

theorem SetBounds.fault?_path {b : SetBounds} {size : Nat} (h : b.fault? c size = some i) :
    i.path = c.path := by
  unfold SetBounds.fault? at h
  split at h
  · cases h
    rfl
  · split at h <;> cases h
    rfl

namespace Guard

/-- What a scan of a value finds it finds in the value. -/
def ScanReaches (limits : Limits) (v : Value) : Prop :=
  ∀ {c : Context} {i : Issue}, scan limits c v = some i → Reaches c.path i.path

theorem scanItems_reaches {items : List Value} (h : ∀ x ∈ items, ScanReaches limits x) :
    ∀ n : Nat, scanItems limits c n items = some i → Reaches c.path i.path := by
  induction items with
  | nil =>
    intro _ hi
    cases hi
  | cons x rest ih =>
    intro n hi
    rw [List.forall_mem_cons] at h
    rw [scanItems] at hi
    split at hi
    · cases hi
      exact (Reaches.join _ _).trans (h.1 ‹_›)
    · exact ih h.2 (n + 1) hi

theorem scanFields_reaches {fields : List (String × Value)}
    (h : ∀ f ∈ fields, ScanReaches limits f.2) :
    scanFields limits c fields = some i → Reaches c.path i.path := by
  induction fields with
  | nil =>
    intro hi
    cases hi
  | cons f rest ih =>
    obtain ⟨key, x⟩ := f
    intro hi
    rw [List.forall_mem_cons] at h
    rw [scanFields] at hi
    split at hi
    · cases hi
      exact (Reaches.join _ _).trans (h.1 ‹_›)
    · exact ih h.2 hi

/-- A part of an entry stands below the position of the entry. -/
theorem reaches_atKey (n : Nat) (key : String) :
    Reaches c.path ((c.childIndex n).atKey key).path :=
  (Reaches.join c.path _).trans (Reaches.join _ key)

theorem scanEntries_reaches {entries : List (Value × Value)}
    (h : ∀ e ∈ entries, ScanReaches limits e.1 ∧ ScanReaches limits e.2) :
    ∀ n : Nat, scanEntries limits c n entries = some i → Reaches c.path i.path := by
  induction entries with
  | nil =>
    intro _ hi
    cases hi
  | cons e rest ih =>
    obtain ⟨k, x⟩ := e
    intro n hi
    rw [List.forall_mem_cons] at h
    rw [scanEntries] at hi
    split at hi
    · cases hi
      exact (reaches_atKey n "key").trans (h.1.1 ‹_›)
    · split at hi
      · cases hi
        exact (reaches_atKey n "value").trans (h.1.2 ‹_›)
      · exact ih h.2 (n + 1) hi

theorem scan_reaches (limits : Limits) (v : Value) : ScanReaches limits v := by
  induction v using Value.induction with
  | node v ih =>
    intro c i hi
    cases v with
    | array id items | set id items =>
      rw [scan] at hi
      split at hi
      · cases hi
        exact Reaches.refl c.path
      · exact scanItems_reaches ih 0 hi
    | object id fields =>
      rw [scan] at hi
      split at hi
      · cases hi
        exact Reaches.refl c.path
      · exact scanFields_reaches (Value.forall_mem_parts_object.mp ih) hi
    | map id entries =>
      rw [scan] at hi
      split at hi
      · cases hi
        exact Reaches.refl c.path
      · exact scanEntries_reaches (Value.forall_mem_parts_map.mp ih) 0 hi
    | _ => cases hi

end Guard

/-- A key that is not declared is reported under its name, and what is found behind it below. -/
theorem UnknownKeys.issues_reach {u : UnknownKeys} {extra : List (String × Value)}
    (h : i ∈ u.issues limits c extra) : Reaches c.path i.path := by
  cases u with
  | strip => exact absurd h List.not_mem_nil
  | strict =>
    obtain ⟨f, _, rfl⟩ := List.mem_map.mp h
    exact Reaches.join c.path f.1
  | passthrough =>
    obtain ⟨f, _, hi⟩ := List.mem_filterMap.mp h
    exact (Reaches.join c.path f.1).trans (Guard.scan_reaches limits f.2 hi)

end Own

/-! ## The questions of containers -/

namespace Inquiry

variable {s : Site} {c : Context} {q : Inquiry}

/-- A question about a part that has a position. -/
def AtPosition (c : Context) (q : Inquiry) : Prop :=
  ∃ n : Nat, Reaches (c.childIndex n).path q.context.path

theorem mem_ofFields {input : List (String × Value)} {fields : List (String × Schema)} :
    ∀ {n : Nat}, q ∈ ofFields s c input n fields →
      ∃ f ∈ fields, q.child = f.2 ∧ q.context = c.childKey f.1 := by
  induction fields with
  | nil => exact fun hq => absurd hq List.not_mem_nil
  | cons f rest ih =>
    obtain ⟨key, child⟩ := f
    intro n hq
    rcases List.mem_cons.mp hq with rfl | hq
    · exact ⟨(key, child), List.mem_cons_self, rfl, rfl⟩
    · obtain ⟨f, hf, hchild, hcontext⟩ := ih hq
      exact ⟨f, List.mem_cons_of_mem _ hf, hchild, hcontext⟩

theorem mem_ofItems {childAt : Nat → Option Schema} {items : List Value} :
    ∀ {n : Nat}, q ∈ ofItems childAt s c n items →
      (∃ m, childAt m = some q.child) ∧ q.AtPosition c := by
  induction items with
  | nil => exact fun hq => absurd hq List.not_mem_nil
  | cons v rest ih =>
    intro n hq
    rcases List.mem_append.mp hq with hq | hq
    · obtain ⟨child, hchild, rfl⟩ := Option.map_eq_some_iff.mp (Option.mem_toList.mp hq)
      exact ⟨⟨n, hchild⟩, n, Reaches.refl _⟩
    · exact ih hq

theorem mem_ofEntries {key : Option Schema} {value : Schema} {input : List (String × Value)} :
    ∀ {n : Nat}, q ∈ ofEntries key value s c n input →
      (q.child ∈ key ∨ q.child = value) ∧ ∃ f ∈ input, q.context = c.childKey f.1 := by
  induction input with
  | nil => exact fun hq => absurd hq List.not_mem_nil
  | cons e rest ih =>
    obtain ⟨name, v⟩ := e
    intro n hq
    have hself : (name, v) ∈ (name, v) :: rest := List.mem_cons_self
    rcases List.mem_append.mp hq with hq | hq
    · obtain ⟨child, hchild, rfl⟩ := Option.map_eq_some_iff.mp (Option.mem_toList.mp hq)
      exact ⟨.inl hchild, _, hself, rfl⟩
    · rcases List.mem_cons.mp hq with rfl | hq
      · exact ⟨.inr rfl, _, hself, rfl⟩
      · obtain ⟨hchild, f, hf, hcontext⟩ := ih hq
        exact ⟨hchild, f, List.mem_cons_of_mem _ hf, hcontext⟩

theorem mem_ofPairs {key value : Schema} {entries : List (Value × Value)} :
    ∀ {n : Nat}, q ∈ ofPairs key value s c n entries →
      (q.child = key ∨ q.child = value) ∧ q.AtPosition c := by
  induction entries with
  | nil => exact fun hq => absurd hq List.not_mem_nil
  | cons e rest ih =>
    obtain ⟨k, v⟩ := e
    intro n hq
    rcases List.mem_cons.mp hq with rfl | hq
    · exact ⟨.inl rfl, n, Reaches.join _ _⟩
    · rcases List.mem_cons.mp hq with rfl | hq
      · exact ⟨.inr rfl, n, Reaches.join _ _⟩
      · exact ih hq

end Inquiry

namespace Schema

variable {s : Site} {v : Value} {c : Context} {q : Inquiry} {i : Issue}

/-- The keys under which a container asks its children about a value. -/
def askedKeys (schema : Schema) (v : Value) : List String :=
  match schema, v with
  | object shape, _ => shape.keys
  | record _ _ _, .object _ fields => Keyed.keys fields
  | tagged discriminator options, .object _ fields =>
    let literals := Tagged.literals discriminator options
    match (Tagged.select? discriminator literals fields).bind fun n => options[n]? with
    | some option => option.keys
    | none => []
  | _, _ => []

/-- A question about the part under a key that is asked for, or about one that has a position. -/
def Asks (schema : Schema) (v : Value) (c : Context) (q : Inquiry) : Prop :=
  (∃ key ∈ schema.askedKeys v, q.context = c.childKey key) ∨ q.AtPosition c

theorem mem_examineObject {shape : Shape Schema}
    (hq : q ∈ (examineObject shape s v c).inquiries) :
    (∃ key ∈ shape.keys, q.context = c.childKey key) ∧ q.child ∈ (object shape).held := by
  obtain ⟨input, _, hq⟩ := Examination.mem_inquiries_guarded hq
  obtain ⟨f, hf, hchild, hcontext⟩ := Inquiry.mem_ofFields hq
  refine ⟨⟨f.1, List.mem_map_of_mem hf, hcontext⟩, ?_⟩
  rw [hchild]
  exact List.mem_map_of_mem hf

/-- **A container asks its children**, under the keys that it goes by or at positions. -/
theorem mem_examine {schema : Schema} (hq : q ∈ (schema.examine s v c).inquiries) :
    schema.Asks v c q ∧ (q.child ∈ schema.held ∨ ∃ t ∈ schema.bare, q.child ∈ t.held) := by
  cases schema with
  | object shape =>
    obtain ⟨hkey, hheld⟩ := mem_examineObject hq
    exact ⟨.inl hkey, .inl hheld⟩
  | array element bounds =>
    obtain ⟨items, _, hq⟩ := Examination.mem_inquiries_guarded hq
    obtain ⟨⟨m, hm⟩, hplace⟩ := Inquiry.mem_ofItems (Examination.mem_inquiries_unlessFault hq)
    cases hm
    exact ⟨.inr hplace, .inl List.mem_cons_self⟩
  | tuple children rest limits =>
    obtain ⟨items, _, hq⟩ := Examination.mem_inquiries_guarded hq
    obtain ⟨⟨m, hm⟩, hplace⟩ := Inquiry.mem_ofItems (Examination.mem_inquiries_unlessFault hq)
    exact ⟨.inr hplace, .inl (Tuple.mem_of_childAt hm)⟩
  | record key value limits =>
    obtain ⟨input, hinput, hq⟩ := Examination.mem_inquiries_guarded hq
    obtain ⟨hchild, f, hf, hcontext⟩ := Inquiry.mem_ofEntries hq
    obtain ⟨id, rfl, _⟩ := guardedFields_eq_ok hinput
    refine ⟨.inl ⟨f.1, List.mem_map_of_mem hf, hcontext⟩, .inl ?_⟩
    rcases hchild with hkey | hvalue
    · exact List.mem_append_left _ (Option.mem_toList.mpr hkey)
    · exact List.mem_append_right _ (List.mem_singleton.mpr hvalue)
  | map key value limits =>
    cases v with
    | map id entries =>
      obtain ⟨_, _, hq⟩ := Examination.mem_inquiries_guarded hq
      obtain ⟨hchild, hplace⟩ := Inquiry.mem_ofPairs hq
      exact ⟨.inr hplace, .inl (List.mem_pair.mpr hchild)⟩
    | _ => exact absurd hq List.not_mem_nil
  | set element bounds =>
    cases v with
    | set id items =>
      obtain ⟨_, _, hq⟩ := Examination.mem_inquiries_guarded hq
      obtain ⟨⟨m, hm⟩, hplace⟩ := Inquiry.mem_ofItems (Examination.mem_inquiries_unlessFault hq)
      cases hm
      exact ⟨.inr hplace, .inl List.mem_cons_self⟩
    | _ => exact absurd hq List.not_mem_nil
  | tagged discriminator options =>
    cases v with
    | object id fields =>
      simp only [examine] at hq
      split at hq
      · rename_i n option hselected
        obtain ⟨m, hm, hoption⟩ := Option.bind_eq_some_iff.mp hselected
        obtain ⟨o, ho, hpair⟩ := Option.map_eq_some_iff.mp hoption
        cases hpair
        obtain ⟨⟨key, hkey, hcontext⟩, hheld⟩ := mem_examineObject hq
        have hasked : (tagged discriminator options).askedKeys (.object id fields)
            = option.keys := by
          simp only [askedKeys, hm, Option.bind_some, ho]
        refine ⟨.inl ⟨key, hasked ▸ hkey, hcontext⟩, .inr ⟨object option, ?_, hheld⟩⟩
        exact List.mem_map_of_mem (List.mem_of_getElem? ho)
      · exact absurd hq List.not_mem_nil
    | _ => exact absurd hq List.not_mem_nil
  | _ => exact absurd hq List.not_mem_nil

theorem reaches_of_mem_examine {schema : Schema} (hq : q ∈ (schema.examine s v c).inquiries) :
    Reaches c.path q.context.path := by
  rcases (mem_examine hq).1 with ⟨key, _, hcontext⟩ | ⟨n, hreaches⟩
  · rw [hcontext]
    exact Reaches.join c.path key
  · exact (Reaches.join c.path _).trans hreaches

/-- **A child has a path of its own**, unless it is asked about the empty key of the root. -/
theorem path_ne_of_mem_examine {schema : Schema}
    (h : c.path ≠ "" ∨ "" ∉ schema.askedKeys v) (hq : q ∈ (schema.examine s v c).inquiries) :
    q.context.path ≠ c.path := by
  rcases (mem_examine hq).1 with ⟨key, hkey, hcontext⟩ | ⟨n, hreaches⟩
  · rw [hcontext]
    intro hpath
    obtain ⟨hroot, rfl⟩ := Context.join_eq_self_iff.mp hpath
    rcases h with h | h
    · exact h hroot
    · exact h hkey
  · exact (Reaches.join c.path _).ne_of_ne (Context.join_repr_ne c.path n) hreaches

theorem examineObject_ownIssues_reach {shape : Shape Schema}
    (hi : i ∈ (examineObject shape s v c).ownIssues) : Reaches c.path i.path := by
  rcases Examination.mem_ownIssues_guarded hi with hguard | ⟨input, _, hi⟩
  · exact .of_eq (guardedFields_path hguard)
  · exact UnknownKeys.issues_reach hi

/-- A container that is too deep says so about itself. -/
theorem checkDepth_path {limits : Limits}
    (h : (Guard.checkDepth c.depth limits).mapError (fun r => r.issue c) = .error i) :
    i.path = c.path := by
  cases hcheck : Guard.checkDepth c.depth limits with
  | ok _ =>
    rw [hcheck] at h
    cases h
  | error r =>
    rw [hcheck] at h
    cases h
    rfl

theorem sizeFault_path {fault? : Option SizeFault} {noun : String}
    (h : (fault?.map fun fault => fault.issue noun c) = some i) : i.path = c.path := by
  obtain ⟨fault, _, rfl⟩ := Option.map_eq_some_iff.mp h
  exact fault.issue_path noun

/-- **The own issues of a container** are about the value or about a part of it. -/
theorem examine_ownIssues_reach {schema : Schema} (hi : i ∈ (schema.examine s v c).ownIssues) :
    Reaches c.path i.path := by
  cases schema with
  | object shape => exact examineObject_ownIssues_reach hi
  | array element bounds =>
    rcases Examination.mem_ownIssues_guarded hi with hguard | ⟨items, _, hi⟩
    · exact .of_eq (guardedItems_path hguard)
    · rcases Examination.mem_ownIssues_unlessFault hi with hfault | hi
      · exact .of_eq (sizeFault_path hfault)
      · exact absurd hi List.not_mem_nil
  | tuple children rest limits =>
    rcases Examination.mem_ownIssues_guarded hi with hguard | ⟨items, _, hi⟩
    · exact .of_eq (guardedItems_path hguard)
    · rcases Examination.mem_ownIssues_unlessFault hi with hfault | hi
      · exact .of_eq (sizeFault_path hfault)
      · exact absurd hi List.not_mem_nil
  | record key value limits =>
    rcases Examination.mem_ownIssues_guarded hi with hguard | ⟨input, _, hi⟩
    · exact .of_eq (guardedFields_path hguard)
    · exact absurd hi List.not_mem_nil
  | map key value limits =>
    cases v with
    | map id entries =>
      rcases Examination.mem_ownIssues_guarded hi with hguard | ⟨_, _, hi⟩
      · exact .of_eq (checkDepth_path hguard)
      · exact absurd hi List.not_mem_nil
    | _ => exact .of_eq (congrArg Issue.path (List.mem_singleton.mp hi))
  | set element bounds =>
    cases v with
    | set id items =>
      rcases Examination.mem_ownIssues_guarded hi with hguard | ⟨_, _, hi⟩
      · exact .of_eq (checkDepth_path hguard)
      · rcases Examination.mem_ownIssues_unlessFault hi with hfault | hi
        · exact .of_eq (SetBounds.fault?_path hfault)
        · exact absurd hi List.not_mem_nil
    | _ => exact .of_eq (congrArg Issue.path (List.mem_singleton.mp hi))
  | tagged discriminator options =>
    cases v with
    | object id fields =>
      simp only [examine] at hi
      split at hi
      · exact examineObject_ownIssues_reach hi
      · -- the tag is reported under its key
        cases List.mem_singleton.mp hi
        rw [Tagged.noMatch_path]
        exact Reaches.join c.path discriminator
    | _ => exact .of_eq (congrArg Issue.path (List.mem_singleton.mp hi))
  | _ => exact absurd hi List.not_mem_nil

/-! ## Schemas -/

variable {mode : Mode} {resolve : Resolution}

/-- A container reports within the value as soon as everyone whom it asks does. -/
theorem container_reportsWithin {schema : Schema} (hS : schema.IsContainer)
    (h : ∀ {s v c}, ∀ q ∈ (schema.examine s v c).inquiries,
      (q.child.evaluator mode resolve).judge.ReportsWithin) :
    (schema.evaluator mode resolve).judge.ReportsWithin := by
  intro s v c verdict hv i hi
  have hissues : (schema.examine s v c).issues? id (Inquiry.answer mode resolve)
      = some verdict.issues := by
    rw [← examine_issues hS, hv]
    rfl
  rcases Examination.mem_issues? hissues hi with ⟨q, hq, r, hr, hi⟩ | hi
  · exact (reaches_of_mem_examine hq).trans (h q hq hr i hi)
  · exact examine_ownIssues_reach hi

/-- **Every schema reports within the value**, as long as the definitions behind its references
do. -/
theorem evaluator_reportsWithin (schema : Schema)
    (href : ∀ ref, (resolve ref).judge.ReportsWithin) :
    (schema.evaluator mode resolve).judge.ReportsWithin
      ∧ ∀ t ∈ schema.held, (t.evaluator mode resolve).judge.ReportsWithin := by
  induction schema using Schema.induction with
  | node schema ih =>
    refine ⟨?_, fun t ht => (ih t (mem_children_of_held ht)).1⟩
    have hbare : ∀ t ∈ schema.bare, (t.evaluator mode resolve).judge.ReportsWithin :=
      fun t ht => (ih t (mem_children_of_bare ht)).1
    have hcontainer : schema.IsContainer → (schema.evaluator mode resolve).judge.ReportsWithin := by
      intro hS
      refine container_reportsWithin hS fun q hq => ?_
      rcases (mem_examine hq).2 with hheld | ⟨t, ht, hheld⟩
      · exact (ih q.child (mem_children_of_held hheld)).1
      · exact (ih t (mem_children_of_bare ht)).2 q.child hheld
    cases schema with
    | text t => exact .leaf (.text t)
    | number n => exact .leaf (.number n)
    | integer n => exact .leaf (.integer n)
    | date d => exact .leaf (.date d)
    | plain p => exact .leaf (.plain p)
    | literal w => exact .leaf (.literal w)
    | words options => exact .leaf (.words options)
    | enumeration entries => exact .leaf (.enumeration entries)
    | union options =>
      rw [evaluator_eq_layer]
      exact .union _
    | intersection branches =>
      rw [evaluator_eq_layer]
      refine .intersection fun j hj => ?_
      obtain ⟨t, ht, rfl⟩ := List.mem_map.mp hj
      exact hbare t ht
    | lazy ref => exact href ref
    | modified m inner => exact .modifier mode m (hbare inner List.mem_cons_self)
    | pipe first next =>
      exact .pipe (hbare first List.mem_cons_self)
        (hbare next (List.mem_cons_of_mem _ List.mem_cons_self))
    | object _ | array _ _ | tuple _ _ _ | record _ _ _ | map _ _ _ | set _ _ | tagged _ _ =>
      exact hcontainer trivial

/-- However often definitions are unfolded, a reference reports within the value. -/
theorem resolution_reportsWithin (family : Family) (mode : Mode) (budget : Nat) (ref : Reference) :
    (family.resolution mode budget ref).judge.ReportsWithin := by
  apply @Family.resolution_induction family mode fun e => e.judge.ReportsWithin
  · intro s v c verdict hv
    cases hv
  · exact fun e _ resolve href => (evaluator_reportsWithin e.2 href).1

end Schema

end ValueSchema
