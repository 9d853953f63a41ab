/-
Messages of containers.

A schema with a message reports what the schema reports, and gives the message to the issues that
stand at the path of the value. Which issues these are is told by their paths alone. For a
container they are meant to be its own: an answer of a child stands below the path of the child,
which goes on from the path of the container, so no message reaches it.

There is one place where the two paths are the same. The path of the root is empty, and the empty
key put below it is empty again. A child that is asked about this key reports at the path of the
container, and what it says about the value under the key is given the message as well.
-/
import ValueSchema.Proofs.Awaiting.Schemas
import ValueSchema.Proofs.Messages.Places

set_option autoImplicit false

namespace ValueSchema

open Context (Reaches)

/-! ## Issues with a message -/

/-- An issue is given a message if it stands at a path. -/
def Issue.retold (text path : String) (i : Issue) : Issue :=
  if i.path = path then i.withMessage text else i

/-- An issue without its message. -/
def Issue.untold (i : Issue) : Issue := i.withMessage ""

theorem Issue.untold_retold (text path : String) (i : Issue) :
    (i.retold text path).untold = i.untold := by
  unfold Issue.retold
  split <;> rfl

namespace Verdict

/-- The issues at a path are given a message. -/
def retold (text path : String) (verdict : Verdict) : Verdict :=
  verdict.mapError (Issues.overrideMessage path text)

/-- The output, or the issues without their messages. -/
def untold (verdict : Verdict) : Verdict := verdict.mapError (Issues.map Issue.untold)

variable {text path : String} {verdict : Verdict}

theorem issues_mapError (f : Issue → Issue) (verdict : Verdict) :
    issues (verdict.mapError (Issues.map f)) = verdict.issues.map f := by
  cases verdict <;> rfl

theorem issues_retold (verdict : Verdict) :
    (verdict.retold text path).issues = verdict.issues.map (Issue.retold text path) :=
  issues_mapError _ verdict

/-- A message changes nothing but messages. -/
theorem untold_retold (verdict : Verdict) : (verdict.retold text path).untold = verdict.untold := by
  cases verdict with
  | ok v => rfl
  | error e =>
    have hissue : (fun i => (Issue.retold text path i).untold) = Issue.untold :=
      funext fun i => i.untold_retold text path
    refine congrArg Except.error ?_
    simp only [Issues.overrideMessage, Issues.map, List.map_map]
    exact congrArg (fun f => Issues.mk (f e.first) (e.rest.map f)) hissue

/-- A verdict with no issue at the path is left as it is. -/
theorem retold_of_ne (h : ∀ i ∈ verdict.issues, i.path ≠ path) :
    verdict.retold text path = verdict := by
  cases verdict with
  | ok v => rfl
  | error e =>
    have hissue : ∀ i ∈ e.first :: e.rest, i.retold text path = i := fun i hi => if_neg (h i hi)
    rw [List.forall_mem_cons] at hissue
    have hrest : e.rest.map (Issue.retold text path) = e.rest.map id :=
      List.map_congr_left hissue.2
    rw [List.map_id] at hrest
    exact congrArg Except.error (congrArg₂ Issues.mk hissue.1 hrest)

/-- What is said within a part that has a path of its own is left as it is. -/
theorem retold_of_within {c : Context} (h : verdict.Within c) (hreach : Reaches path c.path)
    (hne : c.path ≠ path) : verdict.retold text path = verdict :=
  retold_of_ne fun i hi => hreach.ne_of_ne hne (h i hi)

end Verdict

/-! ## Answers with a message -/

namespace Inquiry

variable {ask ask' : Inquiry → Option Verdict} {l : List Inquiry}

theorem told_congr (h : ∀ q ∈ l, ask q = ask' q) : told ask l = told ask' l := by
  induction l with
  | nil => rfl
  | cons q rest ih =>
    rw [List.forall_mem_cons] at h
    rw [told_cons, told_cons, h.1, ih h.2]

/-- Issues are told anew answer by answer. -/
theorem told_retold (text path : String) (l : List Inquiry) :
    (told ask l).map (List.map (Issue.retold text path))
      = told (fun q => (ask q).map (Verdict.retold text path)) l := by
  induction l with
  | nil => rfl
  | cons q rest ih =>
    rw [told_cons, told_cons, ← ih]
    cases ask q with
    | none => rfl
    | some verdict =>
      simp only [Option.bind_some, Option.map_some, Option.map_map, Verdict.issues_retold]
      exact Option.map_congr fun _ _ => List.map_append

/-- The answer to a question once those at the path of the asker are given a message. -/
def answerRetold (text : String) (c : Context) (ask : Inquiry → Option Verdict) (q : Inquiry) :
    Option Verdict :=
  if q.context.path = c.path then (ask q).map (Verdict.retold text c.path) else ask q

end Inquiry

namespace Examination

variable {ask ask' : Inquiry → Option Verdict} {own : Issue → Issue} {e : Examination}

theorem issues?_congr (h : ∀ q ∈ e.inquiries, ask q = ask' q) :
    e.issues? own ask = e.issues? own ask' := by
  rw [issues?_eq_told, issues?_eq_told, Inquiry.told_congr h]

theorem issues?_retold (text path : String) (e : Examination) :
    (e.issues? id ask).map (List.map (Issue.retold text path))
      = e.issues? (Issue.retold text path) fun q => (ask q).map (Verdict.retold text path) := by
  rw [issues?_eq_told, issues?_eq_told, ← Inquiry.told_retold, Option.map_map, Option.map_map,
    List.map_id]
  exact Option.map_congr fun _ _ => List.map_append

end Examination

/-! ## Containers with a message -/

/-- What a message makes of the judgement of a value, given what is found and asked about it. -/
structure Retelling (text : String) (c : Context) (keys : List String) (e : Examination)
    (ask : Inquiry → Option Verdict) (plain told : Option Verdict) : Prop where
  /-- Outputs, issues and their order are the same; only messages can differ. -/
  same : told.map Verdict.untold = plain.map Verdict.untold
  /-- Without the message the issues are those of the children and then the container's own. -/
  plain_issues : plain.map Verdict.issues = e.issues? id ask
  /-- With it, its own ones at its path have the message, and so have those of a child at it. -/
  told_issues : told.map Verdict.issues
    = e.issues? (Issue.retold text c.path) (Inquiry.answerRetold text c ask)
  /-- Below the root, and where no child is asked about the empty key, children keep theirs. -/
  children_kept : c.path ≠ "" ∨ "" ∉ keys →
    told.map Verdict.issues = e.issues? (Issue.retold text c.path) ask

namespace Schema

variable {mode : Mode} {resolve : Resolution} {family : Family} {S : Schema} {s : Site}
  {v : Value} {c : Context}

theorem message_judge (text : String) :
    ((modified (.message text) S).evaluator mode resolve).judge s v c
      = ((S.evaluator mode resolve).judge s v c).map (Verdict.retold text c.path) := rfl

/-- A child with a path of its own has no issue at the path of the container. -/
theorem answer_retold (href : ∀ ref, (resolve ref).judge.ReportsWithin) (text : String)
    {q : Inquiry} (hq : q ∈ (S.examine s v c).inquiries) (hne : q.context.path ≠ c.path) :
    (Inquiry.answer mode resolve q).map (Verdict.retold text c.path)
      = Inquiry.answer mode resolve q := by
  cases hanswer : Inquiry.answer mode resolve q with
  | none => rfl
  | some verdict =>
    have hwithin : verdict.Within q.context := (evaluator_reportsWithin q.child href).1 hanswer
    exact congrArg some (Verdict.retold_of_within hwithin (reaches_of_mem_examine hq) hne)

/-- The issues under a message: the container's own and those of every answer are told anew. -/
theorem message_issues (hS : S.IsContainer) (text : String) :
    (((modified (.message text) S).evaluator mode resolve).judge s v c).map Verdict.issues
      = (S.examine s v c).issues? (Issue.retold text c.path)
        fun q => (Inquiry.answer mode resolve q).map (Verdict.retold text c.path) := by
  rw [message_judge, ← Examination.issues?_retold, ← examine_issues hS, Option.map_map,
    Option.map_map]
  exact Option.map_congr fun verdict _ => verdict.issues_retold

/-- **A message on a container reaches the answers at its own path only.** -/
theorem message_retells (hS : S.IsContainer) (mode : Mode)
    (href : ∀ ref, (resolve ref).judge.ReportsWithin) (text : String) (s : Site) (v : Value)
    (c : Context) :
    Retelling text c (S.askedKeys v) (S.examine s v c) (Inquiry.answer mode resolve)
      ((S.evaluator mode resolve).judge s v c)
      (((modified (.message text) S).evaluator mode resolve).judge s v c) := by
  refine ⟨?_, examine_issues hS, ?_, fun h => ?_⟩
  · rw [message_judge, Option.map_map]
    exact Option.map_congr fun verdict _ => verdict.untold_retold
  · rw [message_issues hS]
    refine Examination.issues?_congr fun q hq => ?_
    unfold Inquiry.answerRetold
    by_cases hpath : q.context.path = c.path
    · rw [if_pos hpath]
    · rw [if_neg hpath, answer_retold href text hq hpath]
  · rw [message_issues hS]
    exact Examination.issues?_congr fun q hq =>
      answer_retold href text hq (path_ne_of_mem_examine h hq)

/-- A message changes neither the budget nor the start of a judgement. -/
theorem start_message (text : String) (v : Value) :
    family.start (modified (.message text) S) v = family.start S v := by
  have hrun : (modified (.message text) S).nextRun = S.nextRun := Nat.zero_max _
  rw [Family.start, Family.start, hrun]

/-- **A message on a container leaves the errors of its children alone**, unless a child stands at
the empty path of the root, in validation and in validation that waits. -/
theorem validateIn_message (hS : S.IsContainer) (text : String) (family : Family) (v : Value)
    (c : Context) :
    Retelling text c (S.askedKeys v) (S.examine (family.start S v) v c)
        (Inquiry.answer .sync (family.resolution .sync (family.budget S v)))
        (S.validateIn family v c) ((modified (.message text) S).validateIn family v c)
      ∧ Retelling text c (S.askedKeys v) (S.examine (family.start S v) v c)
        (Inquiry.answer .async (family.resolution .async (family.budget S v)))
        (S.validateAsyncIn family v c)
        ((modified (.message text) S).validateAsyncIn family v c) := by
  have hretells : ∀ mode : Mode,
      Retelling text c (S.askedKeys v) (S.examine (family.start S v) v c)
        (Inquiry.answer mode (family.resolution mode (family.budget S v)))
        ((family.evaluator mode S v).judge (family.start S v) v c)
        ((family.evaluator mode (modified (.message text) S) v).judge
          (family.start (modified (.message text) S) v) v c) := by
    intro mode
    rw [start_message]
    exact message_retells hS mode (resolution_reportsWithin family mode _) text _ v c
  refine ⟨hretells .sync, ?_⟩
  rw [validateAsyncIn_eq_judge, validateAsyncIn_eq_judge]
  exact hretells .async

/-- An object with one text under a key. -/
def textUnder (key : String) : Schema :=
  object ⟨[(key, text .any)], .strip, Limits.standard⟩

/-- An object with null under a key. -/
def nullUnder (key : String) : Value := .object (.given 0) [(key, .null)]

/-- The issue about null where a text is expected. -/
def nullText (c : Context) : Issue := c.typeMismatch .notString "string" .null

/-- A text under a name keeps its own message. -/
theorem validateIn_message_name :
    (textUnder "name").IsContainer
    ∧ "" ∉ (textUnder "name").askedKeys (nullUnder "name")
    ∧ ((modified (.message "no account") (textUnder "name")).validateIn [] (nullUnder "name")
        Context.root).map Verdict.issues = some [nullText ⟨"name", 1⟩] := by
  have hS : (textUnder "name").IsContainer := trivial
  have hkeys : "" ∉ (textUnder "name").askedKeys (nullUnder "name") := by decide
  have htold := validateIn_message hS "no account" [] (nullUnder "name") Context.root
  refine ⟨hS, hkeys, ?_⟩
  rw [htold.1.children_kept (.inr hkeys)]
  rfl

/-- A text under the empty key of the root is given the message of the object around it. -/
theorem message_reaches_empty_key :
    (textUnder "").IsContainer
    ∧ (∃ q ∈ ((textUnder "").examine (Family.start [] (textUnder "") (nullUnder ""))
          (nullUnder "") Context.root).inquiries,
        Inquiry.answer .sync
          (Family.resolution [] .sync (Family.budget [] (textUnder "") (nullUnder ""))) q
          = some (.reject (nullText Context.root)))
    ∧ ((modified (.message "no account") (textUnder "")).validateIn [] (nullUnder "")
        Context.root).map Verdict.issues = some [(nullText Context.root).withMessage "no account"]
    ∧ (nullText Context.root).message ≠ "no account" :=
  ⟨trivial, ⟨_, List.mem_cons_self, rfl⟩, rfl, by decide⟩

end Schema

end ValueSchema
