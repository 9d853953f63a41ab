/-
What containers ask of their children.

A container either refuses a value as a whole, with one issue of its own and without asking anyone,
or it asks its children about the parts of the value, each at its place and its path, and has a few
issues of its own left over: those of the keys that it does not declare. Its issues are those of
the answers in the order of asking, and then its own. So for every issue of a container it is plain
whose it is.

A tagged union asks what the option asks that the tag leads to.
-/
import ValueSchema.Proofs.Acceptance
import ValueSchema.Proofs.Layer

set_option autoImplicit false

namespace ValueSchema

/-! ## Inquiries -/

/-- A question to a child: about a value, at a site and a context. -/
structure Inquiry where
  child : Schema
  site : Site
  value : Value
  context : Context

namespace Inquiry

/-- The questions about declared fields from a position on; a missing field stands as undefined. -/
def ofFields (s : Site) (c : Context) (input : List (String × Value)) :
    Nat → List (String × Schema) → List Inquiry
  | _, [] => []
  | n, (key, child) :: rest =>
    ⟨child, s.child n, fieldOr key input, c.childKey key⟩ :: ofFields s c input (n + 1) rest

/-- The questions about elements from a position on, where some child is in charge. -/
def ofItems (childAt : Nat → Option Schema) (s : Site) (c : Context) :
    Nat → List Value → List Inquiry
  | _, [] => []
  | n, v :: rest =>
    ((childAt n).map fun child => ⟨child, s.child n, v, c.childIndex n⟩).toList
      ++ ofItems childAt s c (n + 1) rest

/-- The questions about the entries of a record from a position on. -/
def ofEntries (key : Option Schema) (value : Schema) (s : Site) (c : Context) :
    Nat → List (String × Value) → List Inquiry
  | _, [] => []
  | n, (name, v) :: rest =>
    (key.map fun child => ⟨child, (s.child n).child 0, .string name, c.childKey name⟩).toList
      ++ ⟨value, (s.child n).child 1, v, c.childKey name⟩ :: ofEntries key value s c (n + 1) rest

/-- The questions about the entries of a map from a position on. -/
def ofPairs (key value : Schema) (s : Site) (c : Context) :
    Nat → List (Value × Value) → List Inquiry
  | _, [] => []
  | n, (k, v) :: rest =>
    ⟨key, (s.child n).child 0, k, (c.childIndex n).atKey "key"⟩
      :: ⟨value, (s.child n).child 1, v, (c.childIndex n).atKey "value"⟩
      :: ofPairs key value s c (n + 1) rest

/-- The answer of a child to a question. -/
def answer (mode : Mode) (resolve : Resolution) (q : Inquiry) : Option Verdict :=
  (q.child.evaluator mode resolve).judge q.site q.value q.context

end Inquiry

/-- What a container makes of a value before its children answer. -/
inductive Examination
  /-- The value is refused as a whole. -/
  | refused (i : Issue)
  /-- Children are asked, and issues of the container's own are left over. -/
  | asks (inquiries : List Inquiry) (leftovers : List Issue)

namespace Examination

/-- A value that a check does not let through is refused. -/
def guarded {α : Type} (check : Except Issue α) (next : α → Examination) : Examination :=
  match check with
  | .error i => .refused i
  | .ok x => next x

/-- A value with a fault is refused. -/
def unlessFault (fault? : Option Issue) (next : Examination) : Examination :=
  match fault? with
  | some i => .refused i
  | none => next

def inquiries : Examination → List Inquiry
  | refused _ => []
  | asks l _ => l

/-- The issues that are the container's own. -/
def ownIssues : Examination → List Issue
  | refused i => [i]
  | asks _ leftovers => leftovers

/-- The issues once the children have answered, those of their answers first. -/
def issues? (e : Examination) (own : Issue → Issue) (ask : Inquiry → Option Verdict) :
    Option (List Issue) :=
  (e.inquiries.mapM ask).map fun answers => Verdict.allIssues answers ++ e.ownIssues.map own

end Examination

/-! ## Examinations by kind of container -/

namespace Schema

/-- A schema that judges a value by its parts. -/
def IsContainer : Schema → Prop
  | object _ | array _ _ | tuple _ _ _ | record _ _ _ | map _ _ _ | set _ _ | tagged _ _ => True
  | _ => False

/-- What an object schema asks about the fields that it declares. -/
def examineObject (shape : Shape Schema) (s : Site) (v : Value) (c : Context) : Examination :=
  .guarded (guardedFields shape.limits c v) fun input =>
    .asks (Inquiry.ofFields s c input 0 shape.fields)
      (shape.unknown.issues shape.limits c (undeclared shape.keys input))

/-- What a container finds and asks about a value at a site and a context. -/
def examine (schema : Schema) (s : Site) (v : Value) (c : Context) : Examination :=
  match schema with
  | object shape => examineObject shape s v c
  | array element bounds =>
    .guarded (guardedItems bounds.limits c v) fun items =>
      .unlessFault ((bounds.fault? items).map fun fault => fault.issue "Array" c)
        (.asks (Inquiry.ofItems (fun _ => some element) s c 0 items) [])
  | tuple children rest limits =>
    .guarded (guardedItems limits c v) fun items =>
      .unlessFault ((Tuple.fault? children.length rest.isSome items.length).map fun fault =>
          fault.issue "Tuple" c)
        (.asks (Inquiry.ofItems (Tuple.childAt children rest) s c 0 items) [])
  | record key value limits =>
    .guarded (guardedFields limits c v) fun input =>
      .asks (Inquiry.ofEntries key value s c 0 input) []
  | map key value limits =>
    match v with
    | .map _ entries =>
      .guarded ((Guard.checkDepth c.depth limits).mapError fun r => r.issue c) fun _ =>
        .asks (Inquiry.ofPairs key value s c 0 entries) []
    | v => .refused (c.typeMismatch .notMap "map" v)
  | set element bounds =>
    match v with
    | .set _ items =>
      .guarded ((Guard.checkDepth c.depth bounds.limits).mapError fun r => r.issue c) fun _ =>
        .unlessFault (bounds.fault? c items.length)
          (.asks (Inquiry.ofItems (fun _ => some element) s c 0 items) [])
    | v => .refused (c.typeMismatch .notSet "set" v)
  | tagged discriminator options =>
    match v with
    | .object _ fields =>
      let literals := Tagged.literals discriminator options
      match (Tagged.select? discriminator literals fields).bind fun n =>
        options[n]?.map (n, ·) with
      | some (n, option) => examineObject option (s.child n) v c
      | none => .refused (Tagged.noMatch discriminator literals c fields)
    | v => .refused (c.typeMismatch .notObject "object" v)
  | _ => .asks [] []

end Schema

/-! ## Loops over parts -/

namespace Verdict

theorem issues_finish (issues : List Issue) (v : Value) : (finish issues v).issues = issues := by
  cases issues <;> rfl

end Verdict

section Loops

variable {β γ : Type} {mode : Mode} {resolve : Resolution} {s : Site} {c : Context}

/-- A verdict that is collected before others brings its issues before theirs. -/
theorem collect_map (told : β → List Issue) (told' : γ → List Issue) {build : Verdict → β → γ}
    (h : ∀ verdict rest, told' (build verdict rest) = verdict.issues ++ told rest)
    (first : Option Verdict) (others : Option β) :
    (first.bind fun verdict => others.bind fun rest => some (build verdict rest)).map told'
      = first.bind fun verdict => (others.map told).map (verdict.issues ++ ·) := by
  cases first with
  | none => rfl
  | some verdict =>
    cases others with
    | none => rfl
    | some rest => exact congrArg some (h verdict rest)

/-- Two verdicts that are collected before others bring their issues before theirs. -/
theorem collect_pair_map (told : β → List Issue) (told' : γ → List Issue)
    {build : Verdict → Verdict → β → γ}
    (h : ∀ x y rest, told' (build x y rest) = x.issues ++ (y.issues ++ told rest))
    (first second : Option Verdict) (others : Option β) :
    (first.bind fun x => second.bind fun y => others.bind fun rest =>
        some (build x y rest)).map told'
      = first.bind fun x => (second.bind fun y =>
        (others.map told).map (y.issues ++ ·)).map (x.issues ++ ·) := by
  cases first with
  | none => rfl
  | some x =>
    cases second with
    | none => rfl
    | some y =>
      cases others with
      | none => rfl
      | some rest => exact congrArg some (h x y rest)

/-- The judge in charge of a part; where there is none every value passes. -/
def Judge.orAny : Option Judge → Judge
  | some judge => judge
  | none => fun _ v _ => some (.ok v)

namespace Inquiry

/-- The issues of the answers to questions. -/
def told (ask : Inquiry → Option Verdict) (l : List Inquiry) : Option (List Issue) :=
  (l.mapM ask).map Verdict.allIssues

theorem told_cons (ask : Inquiry → Option Verdict) (q : Inquiry) (l : List Inquiry) :
    told ask (q :: l) = (ask q).bind fun verdict => (told ask l).map (verdict.issues ++ ·) := by
  rw [told, List.mapM_cons]
  exact collect_map Verdict.allIssues Verdict.allIssues (fun _ _ => rfl) (ask q) (l.mapM ask)

theorem mem_told {ask : Inquiry → Option Verdict} {l : List Inquiry} {issues : List Issue}
    (h : told ask l = some issues) {i : Issue} (hi : i ∈ issues) :
    ∃ q ∈ l, ∃ verdict, ask q = some verdict ∧ i ∈ verdict.issues := by
  induction l generalizing issues with
  | nil =>
    cases h
    exact absurd hi List.not_mem_nil
  | cons q rest ih =>
    rw [told_cons] at h
    obtain ⟨verdict, hverdict, h⟩ := Option.bind_eq_some_iff.mp h
    obtain ⟨others, hothers, rfl⟩ := Option.map_eq_some_iff.mp h
    rcases List.mem_append.mp hi with hi | hi
    · exact ⟨q, List.mem_cons_self, verdict, hverdict, hi⟩
    · obtain ⟨asked, hasked, answer⟩ := ih hothers hi
      exact ⟨asked, List.mem_cons_of_mem _ hasked, answer⟩

/-- A question that is asked only where there is a child: without one the value passes. -/
theorem told_optional (child : Option Schema) (site : Site) (v : Value) (at_ : Context)
    (l : List Inquiry) :
    told (answer mode resolve) ((child.map fun t => ⟨t, site, v, at_⟩).toList ++ l)
      = (Judge.orAny (child.map fun t => (t.evaluator mode resolve).judge) site v at_).bind
        fun verdict => (told (answer mode resolve) l).map (verdict.issues ++ ·) := by
  cases child with
  | none => exact (congrFun Option.map_id _).symm
  | some t => exact told_cons _ _ _

theorem told_fields {input : List (String × Value)} {fields : List (String × Schema)} (n : Nat) :
    (Shape.judgeFields s c input n
        (Keyed.mapValues (fun t => (t.evaluator mode resolve).judge) fields)).map
        (fun l => Verdict.allIssues (l.map Prod.snd))
      = told (answer mode resolve) (ofFields s c input n fields) := by
  induction fields generalizing n with
  | nil => rfl
  | cons f rest ih =>
    obtain ⟨key, child⟩ := f
    rw [ofFields, told_cons, ← ih (n + 1)]
    exact collect_map _ _ (fun _ _ => rfl) _ _

theorem told_items {childAt : Nat → Option Schema} {items : List Value} (n : Nat) :
    (judgeFrom (fun n => Judge.orAny ((childAt n).map fun t => (t.evaluator mode resolve).judge))
        s c n items).map Verdict.allIssues
      = told (answer mode resolve) (ofItems childAt s c n items) := by
  induction items generalizing n with
  | nil => rfl
  | cons v rest ih =>
    rw [ofItems, told_optional, ← ih (n + 1)]
    exact collect_map Verdict.allIssues Verdict.allIssues (fun _ _ => rfl) _ _

/-- One child is in charge of all elements. -/
theorem told_elements {element : Schema} {items : List Value} :
    (judgeAll (fun _ => (element.evaluator mode resolve).judge) s c items).map Verdict.allIssues
      = told (answer mode resolve) (ofItems (fun _ => some element) s c 0 items) :=
  @told_items mode resolve s c (fun _ => some element) items 0

theorem told_entries {key : Option Schema} {value : Schema} {input : List (String × Value)}
    (n : Nat) :
    (Record.judgeEntries (key.map fun t => (t.evaluator mode resolve).judge)
        (value.evaluator mode resolve).judge s c n input).map (List.flatMap Record.Entry.issues)
      = told (answer mode resolve) (ofEntries key value s c n input) := by
  induction input generalizing n with
  | nil => rfl
  | cons e rest ih =>
    obtain ⟨name, v⟩ := e
    have hkey : Record.judgeKey (key.map fun t => (t.evaluator mode resolve).judge)
        ((s.child n).child 0) name (c.childKey name)
        = Judge.orAny (key.map fun t => (t.evaluator mode resolve).judge) ((s.child n).child 0)
          (.string name) (c.childKey name) := by
      cases key <;> rfl
    rw [ofEntries, told_optional, told_cons, ← ih (n + 1), ← hkey]
    exact collect_pair_map (List.flatMap Record.Entry.issues) (List.flatMap Record.Entry.issues)
      (fun _ _ _ => List.append_assoc _ _ _) _ _ _

theorem told_pairs {key value : Schema} {entries : List (Value × Value)} (n : Nat) :
    (Dictionary.judgeEntries (key.evaluator mode resolve).judge
        (value.evaluator mode resolve).judge s c n entries).map
        (List.flatMap fun e => e.1.issues ++ e.2.issues)
      = told (answer mode resolve) (ofPairs key value s c n entries) := by
  induction entries generalizing n with
  | nil => rfl
  | cons e rest ih =>
    obtain ⟨k, v⟩ := e
    rw [ofPairs, told_cons, told_cons, ← ih (n + 1)]
    exact collect_pair_map _ _ (fun _ _ _ => List.append_assoc _ _ _) _ _ _

end Inquiry

end Loops

/-! ## Issues by their origin -/

namespace Examination

variable {own : Issue → Issue} {ask : Inquiry → Option Verdict}

variable {α : Type} {check : Except Issue α} {next : α → Examination} {q : Inquiry} {i : Issue}

theorem mem_inquiries_guarded (h : q ∈ (guarded check next).inquiries) :
    ∃ x, check = .ok x ∧ q ∈ (next x).inquiries := by
  cases check with
  | error i => exact absurd h List.not_mem_nil
  | ok x => exact ⟨x, rfl, h⟩

theorem mem_ownIssues_guarded (h : i ∈ (guarded check next).ownIssues) :
    check = .error i ∨ ∃ x, check = .ok x ∧ i ∈ (next x).ownIssues := by
  cases check with
  | error j => exact .inl (congrArg _ (List.mem_singleton.mp h).symm)
  | ok x => exact .inr ⟨x, rfl, h⟩

theorem mem_inquiries_unlessFault {fault? : Option Issue} {e : Examination}
    (h : q ∈ (unlessFault fault? e).inquiries) : q ∈ e.inquiries := by
  cases fault? with
  | some i => exact absurd h List.not_mem_nil
  | none => exact h

theorem mem_ownIssues_unlessFault {fault? : Option Issue} {e : Examination}
    (h : i ∈ (unlessFault fault? e).ownIssues) : fault? = some i ∨ i ∈ e.ownIssues := by
  cases fault? with
  | some j => exact .inl (congrArg _ (List.mem_singleton.mp h).symm)
  | none => exact .inr h

theorem issues?_eq_told (e : Examination) :
    e.issues? own ask = (Inquiry.told ask e.inquiries).map (· ++ e.ownIssues.map own) := by
  rw [issues?, Inquiry.told, Option.map_map]
  rfl

theorem issues?_asks (l : List Inquiry) (leftovers : List Issue) :
    (asks l leftovers).issues? own ask
      = (Inquiry.told ask l).map (· ++ leftovers.map own) :=
  issues?_eq_told _

/-- An issue of a container is one of an answer or its own. -/
theorem mem_issues? {e : Examination} {issues : List Issue} (h : e.issues? id ask = some issues)
    {i : Issue} (hi : i ∈ issues) :
    (∃ q ∈ e.inquiries, ∃ verdict, ask q = some verdict ∧ i ∈ verdict.issues)
      ∨ i ∈ e.ownIssues := by
  rw [issues?_eq_told, List.map_id] at h
  obtain ⟨answered, hanswered, rfl⟩ := Option.map_eq_some_iff.mp h
  rcases List.mem_append.mp hi with hi | hi
  · exact .inl (Inquiry.mem_told hanswered hi)
  · exact .inr hi

end Examination

namespace Schema

variable {mode : Mode} {resolve : Resolution} {s : Site} {v : Value} {c : Context}

/-- A container that has collected answers has their issues and its leftovers. -/
theorem issues_of_collected {β : Type} (collected : Option β) (told : β → List Issue)
    (leftovers : List Issue) (output : β → Value) {l : List Inquiry}
    (h : collected.map told = Inquiry.told (Inquiry.answer mode resolve) l) :
    (collected.bind fun x =>
        some (Verdict.finish (told x ++ leftovers) (output x))).map Verdict.issues
      = (Examination.asks l leftovers).issues? id (Inquiry.answer mode resolve) := by
  rw [Examination.issues?_asks, ← h, List.map_id]
  cases collected with
  | none => rfl
  | some x => exact congrArg some (Verdict.issues_finish _ _)

/-- A container without leftovers has the issues of the answers. -/
theorem issues_of_answers {β : Type} (collected : Option β) (told : β → List Issue)
    (output : β → Value) {l : List Inquiry}
    (h : collected.map told = Inquiry.told (Inquiry.answer mode resolve) l) :
    (collected.bind fun x => some (Verdict.finish (told x) (output x))).map Verdict.issues
      = (Examination.asks l []).issues? id (Inquiry.answer mode resolve) := by
  rw [← issues_of_collected collected told [] output h]
  simp only [List.append_nil]

theorem examineObject_issues (shape : Shape Schema) :
    (((object shape).evaluator mode resolve).judge s v c).map Verdict.issues
      = (examineObject shape s v c).issues? id (Inquiry.answer mode resolve) := by
  rw [evaluator_eq_layer]
  simp only [layer, examineObject, Shape.judge, Shape.map]
  cases guardedFields shape.limits c v with
  | error i => rfl
  | ok input =>
    have hkeys : Shape.keys ⟨Keyed.mapValues (fun t => (t.evaluator mode resolve).judge)
        shape.fields, shape.unknown, shape.limits⟩ = shape.keys := by
      simp [Shape.keys, Keyed.keys, Keyed.mapValues, List.map_map]
    rw [hkeys]
    exact issues_of_collected _ _ _ _ (Inquiry.told_fields 0)

/-- **Every issue of a container is its own or one of a child.** -/
theorem examine_issues {schema : Schema} (h : schema.IsContainer) :
    ((schema.evaluator mode resolve).judge s v c).map Verdict.issues
      = (schema.examine s v c).issues? id (Inquiry.answer mode resolve) := by
  cases schema with
  | object shape => exact examineObject_issues shape
  | array element bounds =>
    simp only [evaluator, examine, ArrayBounds.judge]
    cases guardedItems bounds.limits c v with
    | error i => rfl
    | ok items =>
      dsimp only [Examination.guarded]
      cases bounds.fault? items with
      | some fault => rfl
      | none => exact issues_of_answers _ _ _ Inquiry.told_elements
  | tuple children rest limits =>
    rw [evaluator_eq_layer]
    simp only [layer, examine, Tuple.judge, List.length_map, Option.isSome_map, Tuple.childAt_map]
    cases guardedItems limits c v with
    | error i => rfl
    | ok items =>
      dsimp only [Examination.guarded]
      cases Tuple.fault? children.length rest.isSome items.length with
      | some fault => rfl
      | none => exact issues_of_answers _ _ _ (Inquiry.told_items 0)
  | record key value limits =>
    rw [evaluator_eq_layer]
    simp only [layer, examine, Record.judge]
    cases guardedFields limits c v with
    | error i => rfl
    | ok input => exact issues_of_answers _ _ _ (Inquiry.told_entries 0)
  | map key value limits =>
    cases v with
    | map id entries =>
      simp only [evaluator, examine, Dictionary.judge]
      cases Guard.checkDepth c.depth limits with
      | error r => rfl
      | ok _ => exact issues_of_answers _ _ _ (Inquiry.told_pairs 0)
    | _ => rfl
  | set element bounds =>
    cases v with
    | set id items =>
      simp only [evaluator, examine, SetBounds.judge]
      cases Guard.checkDepth c.depth bounds.limits with
      | error r => rfl
      | ok _ =>
        dsimp only [Except.mapError, Examination.guarded]
        cases bounds.fault? c items.length with
        | some i => rfl
        | none => exact issues_of_answers _ _ _ Inquiry.told_elements
    | _ => rfl
  | tagged discriminator options =>
    cases v with
    | object id fields =>
      rw [evaluator_eq_layer]
      simp only [layer, examine, Tagged.judge, List.getElem?_map]
      cases Tagged.select? discriminator (Tagged.literals discriminator options) fields with
      | none => rfl
      | some n =>
        simp only [Option.bind_some]
        cases options[n]? with
        | none => rfl
        | some option => exact examineObject_issues option
    | _ => rfl
  | _ => exact h.elim

end Schema

end ValueSchema
