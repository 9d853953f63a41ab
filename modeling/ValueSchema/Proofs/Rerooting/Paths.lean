/-
Paths under a prefix.

Whatever a judgement says about a value it says at a path, so judging a value that stands below a
prefix should say the same things further down. A path is put under a prefix as a segment is put
under a path, but the empty path, which is the root, becomes the prefix itself. Both ways of
joining agree on names that are not empty, and under the empty prefix nothing moves at all.

Everything that carries paths is moved along: contexts, issues and verdicts. Moving forgets
nothing, so two paths agree below a prefix only if they agree, which is what a message that is put
on the issues about a value relies on.
-/
import ValueSchema.Proofs.Acceptance
import ValueSchema.Proofs.Likeness.Layer

set_option autoImplicit false

namespace ValueSchema

/-! ## Paths -/

namespace Context

/-- The path below a prefix. -/
def rebase (p path : String) : String := if path = "" then p else join p path

/-- A name can be put under a path on either side of a prefix. -/
def Joins (p name : String) : Prop := p = "" ∨ name ≠ ""

theorem rebase_root (p : String) : rebase p "" = p := rfl

theorem join_root (segment : String) : join "" segment = segment := rfl

theorem join_of_ne {path : String} (h : path ≠ "") (segment : String) :
    join path segment = path ++ "." ++ segment := if_neg h

/-- A path with a point in it is not the root. -/
theorem join_ne_root {path : String} (h : path ≠ "") (segment : String) :
    join path segment ≠ "" := by
  rw [join_of_ne h]
  intro hjoin
  have hlen := congrArg String.length hjoin
  simp at hlen

theorem join_ne_root_of_name {path name : String} (h : name ≠ "") : join path name ≠ "" := by
  by_cases hpath : path = ""
  · rwa [hpath, join_root]
  · exact join_ne_root hpath name

theorem rebase_empty (path : String) : rebase "" path = path := by
  unfold rebase
  split
  · exact (‹path = ""›).symm
  · rfl

/-- Below the root a name is put under a path before or after the prefix. -/
theorem join_rebase_of_ne {path : String} (h : path ≠ "") (p name : String) :
    join (rebase p path) name = rebase p (join path name) := by
  by_cases hp : p = ""
  · rw [hp, rebase_empty, rebase_empty]
  · have hmoved : rebase p path = join p path := if_neg h
    have hmoved' : rebase p (join path name) = join p (join path name) :=
      if_neg (join_ne_root h name)
    rw [hmoved, hmoved', join_of_ne (join_ne_root hp path), join_of_ne hp, join_of_ne hp,
      join_of_ne h]
    simp only [String.append_assoc]

/-- **A name that is not empty is put under any path before or after the prefix.** -/
theorem join_rebase {p name : String} (h : Joins p name) (path : String) :
    join (rebase p path) name = rebase p (join path name) := by
  by_cases hpath : path = ""
  · rcases h with hp | hname
    · rw [hp, rebase_empty, rebase_empty]
    · -- at the root the name itself is the path that is moved
      rw [hpath, rebase_root, join_root]
      exact (if_neg hname).symm
  · exact join_rebase_of_ne hpath p name

/-- Paths that agree below a prefix agree. -/
theorem rebase_inj {p path path' : String} : rebase p path = rebase p path' ↔ path = path' := by
  refine ⟨fun h => ?_, fun h => h ▸ rfl⟩
  by_cases hp : p = ""
  · rwa [hp, rebase_empty, rebase_empty] at h
  · -- the prefix alone is shorter than the prefix with a point and a path behind it
    have hshort : ∀ q : String, p ≠ p ++ "." ++ q := by
      intro q hq
      have hlen := congrArg String.length hq
      have hpoint : ".".length = 1 := rfl
      simp only [String.length_append] at hlen
      omega
    unfold rebase at h
    simp only [join_of_ne hp] at h
    split at h
    · split at h
      · exact (‹path = ""›).trans (‹path' = ""›).symm
      · exact absurd h (hshort path')
    · split at h
      · exact absurd h.symm (hshort path)
      · have hlists := congrArg String.toList h
        simp only [String.toList_append] at hlists
        exact String.toList_inj.mp (List.append_cancel_left hlists)

/-! ## Contexts -/

/-- The place below a prefix. -/
def under (p : String) (c : Context) : Context := ⟨rebase p c.path, c.depth⟩

variable {p : String} {c : Context}

theorem under_depth : (c.under p).depth = c.depth := rfl

theorem under_empty : c.under "" = c := by
  unfold under
  rw [rebase_empty]

theorem under_root : root.under p = atPath p := rfl

theorem under_childKey {key : String} (h : Joins p key) :
    (c.childKey key).under p = (c.under p).childKey key := by
  simp only [under, childKey, join_rebase h]

/-- Below the root any name will do. -/
theorem under_childKey_of_ne (h : c.path ≠ "") (key : String) :
    (c.childKey key).under p = (c.under p).childKey key := by
  simp only [under, childKey, join_rebase_of_ne h]

theorem under_atKey_of_ne (h : c.path ≠ "") (key : String) :
    (c.atKey key).under p = (c.under p).atKey key := by
  simp only [under, atKey, join_rebase_of_ne h]

theorem under_atKey {key : String} (h : Joins p key) :
    (c.atKey key).under p = (c.under p).atKey key := by
  simp only [under, atKey, join_rebase h]

/-- A position is a name that is not empty. -/
theorem joins_repr (n : Nat) : Joins p (Nat.repr n) :=
  .inr fun h => Nat.ne_of_gt Nat.length_repr_pos (congrArg String.length h)

theorem under_childIndex (n : Nat) : (c.childIndex n).under p = (c.under p).childIndex n := by
  simp only [under, childIndex, join_rebase (joins_repr n)]

end Context

/-! ## Issues and verdicts -/

/-- The issue about the value below a prefix. -/
def Issue.under (p : String) (i : Issue) : Issue := i.atPath (Context.rebase p i.path)

def Issues.under (p : String) (e : Issues) : Issues := e.map (Issue.under p)

/-- The verdict on the value below a prefix: outputs know no path. -/
def Verdict.under (p : String) (verdict : Verdict) : Verdict := verdict.mapError (Issues.under p)

variable {p : String} {c : Context}

theorem Issue.under_empty (i : Issue) : i.under "" = i := by
  unfold Issue.under
  rw [Context.rebase_empty]
  rfl

theorem Issues.toList_under (e : Issues) : (e.under p).toList = e.toList.map (Issue.under p) := rfl

theorem Issues.ofList?_map (f : Issue → Issue) (l : List Issue) :
    ofList? (l.map f) = (ofList? l).map (Issues.map f) := by
  cases l <;> rfl

/-- A message goes to the issues about the value itself, wherever the value stands. -/
theorem Issues.under_overrideMessage (e : Issues) (text : String) :
    (e.overrideMessage c.path text).under p
      = (e.under p).overrideMessage (c.under p).path text := by
  have hissue : ∀ i : Issue,
      (if i.path = c.path then i.withMessage text else i).under p
        = if (i.under p).path = (c.under p).path then (i.under p).withMessage text
          else i.under p := by
    intro i
    have hpath : (i.under p).path = (c.under p).path ↔ i.path = c.path := Context.rebase_inj
    simp only [hpath]
    split <;> rfl
  unfold overrideMessage under map
  simp only [hissue, List.map_map, Function.comp_def]

namespace Verdict

theorem under_error (e : Issues) : under p (.error e) = .error (e.under p) := rfl

theorem under_empty (verdict : Verdict) : verdict.under "" = verdict := by
  cases verdict with
  | ok v => rfl
  | error e =>
    have hid : Issue.under "" = id := funext Issue.under_empty
    rw [under_error]
    unfold Issues.under Issues.map
    rw [hid, List.map_id]
    rfl

theorem under_reject (i : Issue) : under p (reject i) = reject (i.under p) := rfl

theorem under_finish (issues : List Issue) (output : Value) :
    under p (finish issues output) = finish (issues.map (Issue.under p)) output := by
  cases issues <;> rfl

theorem issues_under (verdict : Verdict) :
    (verdict.under p).issues = verdict.issues.map (Issue.under p) := by
  cases verdict <;> rfl

theorem output?_under (verdict : Verdict) : (verdict.under p).output? = verdict.output? := by
  cases verdict <;> rfl

theorem allIssues_under (l : List Verdict) :
    allIssues (l.map (under p)) = (allIssues l).map (Issue.under p) := by
  simp only [allIssues, List.flatMap_map, List.map_flatMap, issues_under]

theorem outputs_under (l : List Verdict) : outputs (l.map (under p)) = outputs l := by
  simp only [outputs, List.filterMap_map, Function.comp_def, output?_under]

end Verdict

/-! ## Local findings

A leaf, a guard or a bound says what it says about the value itself. Its findings are told by the
value, and the context is only where they are reported.
-/

/-- What is found is reported at the path of the context. -/
def Local (run : Context → Value → Verdict) : Prop :=
  ∀ (p : String) (c : Context) (v : Value), run (c.under p) v = (run c v).under p

namespace Local

theorem text (t : TextSchema) : Local t.run := by
  intro p c v
  cases v with
  | string s =>
    simp only [TextSchema.run]
    rcases t.firstFailure? s with _ | k | r
    · rfl
    · cases k <;> rfl
    · rfl
  | _ => rfl

theorem number (n : NumberSchema) : Local n.run := by
  intro p c v
  cases v with
  | number x =>
    simp only [NumberSchema.run]
    split
    · rfl
    · rcases n.firstFailure? x with _ | k
      · rfl
      · cases k <;> rfl
  | _ => rfl

theorem integer (n : IntegerSchema) : Local n.run := by
  intro p c v
  cases v with
  | bigint x =>
    simp only [IntegerSchema.run]
    rcases n.firstFailure? x with _ | k
    · rfl
    · cases k <;> rfl
  | _ => rfl

theorem date (d : DateSchema) : Local d.run := by
  intro p c v
  cases v with
  | date t =>
    simp only [DateSchema.run, Likeness.dateFailure_eq_map d t c,
      Likeness.dateFailure_eq_map d t (c.under p)]
    cases d.failure? Context.root (.date t) <;> rfl
  | _ => rfl

theorem plain (s : PlainSchema) : Local s.run := by
  intro p c v
  simp only [PlainSchema.run]
  split <;> rfl

theorem literal (expected : Value) : Local (Literal.run expected) := by
  intro p c v
  simp only [Literal.run]
  split <;> rfl

theorem words (options : List String) : Local (Words.run options) := by
  intro p c v
  simp only [Words.run]
  split <;> rfl

theorem enumeration (entries : List (String × Value)) : Local (Enumeration.run entries) := by
  intro p c v
  simp only [Enumeration.run]
  split <;> rfl

end Local

/-- A container as a whole is refused where it stands. -/
theorem guardedFields_under (limits : Limits) (v : Value) :
    guardedFields limits (c.under p) v = (guardedFields limits c v).mapError (Issue.under p) := by
  cases v with
  | object id fields =>
    simp only [guardedFields, Context.under_depth]
    cases Guard.checkObject (Keyed.keys fields) c.depth limits <;> rfl
  | _ => rfl

theorem guardedItems_under (limits : Limits) (v : Value) :
    guardedItems limits (c.under p) v = (guardedItems limits c v).mapError (Issue.under p) := by
  cases v with
  | array id items =>
    simp only [guardedItems, Context.under_depth]
    cases Guard.checkDepth c.depth limits <;> rfl
  | _ => rfl

theorem SizeFault.issue_under (f : SizeFault) (noun : String) :
    f.issue noun (c.under p) = (f.issue noun c).under p := by
  cases f <;> rfl

theorem SetBounds.fault?_under (b : SetBounds) (size : Nat) :
    b.fault? (c.under p) size = (b.fault? c size).map (Issue.under p) := by
  rw [Likeness.setFault_eq_map b c, Likeness.setFault_eq_map b (c.under p)]
  cases b.fault? Context.root size <;> rfl

/-! ## Scans

A value that passes through unexamined is scanned below the key that it stands under, and no name
inside it is put under the root.
-/

namespace Guard

variable {limits : Limits}

/-- A scan below the root reports what it finds below the prefix. -/
def ScanMoves (limits : Limits) (p : String) (v : Value) : Prop :=
  ∀ c : Context, c.path ≠ "" → scan limits (c.under p) v = (scan limits c v).map (Issue.under p)

/-- The first finding of a search is moved as the findings are. -/
theorem orElse_map {f : Issue → Issue} {a a' b b' : Option Issue} (ha : a' = a.map f)
    (hb : b' = b.map f) :
    (match a' with
      | some i => some i
      | none => b')
      = (match a with
        | some i => some i
        | none => b).map f := by
  subst ha hb
  cases a <;> rfl

theorem check_map (check : Except Refusal Unit) {next next' : Option Issue}
    (h : next' = next.map (Issue.under p)) :
    (match check with
      | .error r => some (r.issue (c.under p))
      | .ok () => next')
      = (match check with
        | .error r => some (r.issue c)
        | .ok () => next).map (Issue.under p) := by
  subst h
  cases check <;> rfl

theorem childKey_ne_root (hc : c.path ≠ "") (key : String) : (c.childKey key).path ≠ "" :=
  Context.join_ne_root hc key

theorem childIndex_ne_root (hc : c.path ≠ "") (n : Nat) : (c.childIndex n).path ≠ "" :=
  Context.join_ne_root hc _

theorem scanItems_under {items : List Value} (h : ∀ x ∈ items, ScanMoves limits p x)
    (hc : c.path ≠ "") : ∀ n : Nat,
    scanItems limits (c.under p) n items = (scanItems limits c n items).map (Issue.under p) := by
  induction items with
  | nil => exact fun _ => rfl
  | cons x rest ih =>
    intro n
    rw [List.forall_mem_cons] at h
    simp only [scanItems, ← Context.under_childIndex]
    exact orElse_map (h.1 _ (childIndex_ne_root hc n)) (ih h.2 (n + 1))

theorem scanFields_under {fields : List (String × Value)}
    (h : ∀ f ∈ fields, ScanMoves limits p f.2) (hc : c.path ≠ "") :
    scanFields limits (c.under p) fields = (scanFields limits c fields).map (Issue.under p) := by
  induction fields with
  | nil => rfl
  | cons f rest ih =>
    obtain ⟨key, x⟩ := f
    rw [List.forall_mem_cons] at h
    simp only [scanFields, ← Context.under_childKey_of_ne hc]
    exact orElse_map (h.1 _ (childKey_ne_root hc key)) (ih h.2)

theorem scanEntries_under {entries : List (Value × Value)}
    (h : ∀ e ∈ entries, ScanMoves limits p e.1 ∧ ScanMoves limits p e.2) (hc : c.path ≠ "") :
    ∀ n : Nat, scanEntries limits (c.under p) n entries
      = (scanEntries limits c n entries).map (Issue.under p) := by
  induction entries with
  | nil => exact fun _ => rfl
  | cons e rest ih =>
    obtain ⟨k, x⟩ := e
    intro n
    rw [List.forall_mem_cons] at h
    have hn := childIndex_ne_root hc n
    simp only [scanEntries, ← Context.under_childIndex, ← Context.under_atKey_of_ne hn]
    -- the key comes first, then the value, then the other entries
    refine orElse_map (h.1.1 _ (Context.join_ne_root hn "key")) ?_
    exact orElse_map (h.1.2 _ (Context.join_ne_root hn "value")) (ih h.2 (n + 1))

theorem scan_under (limits : Limits) (p : String) (v : Value) : ScanMoves limits p v := by
  induction v using Value.induction with
  | node v ih =>
    intro c hc
    cases v with
    | array id items | set id items => exact check_map _ (scanItems_under ih hc 0)
    | object id fields =>
      exact check_map _ (scanFields_under (Value.forall_mem_parts_object.mp ih) hc)
    | map id entries =>
      exact check_map _ (scanEntries_under (Value.forall_mem_parts_map.mp ih) hc 0)
    | _ => rfl

end Guard

/-- The keys that are not declared are reported under their names. -/
theorem UnknownKeys.issues_under (u : UnknownKeys) (limits : Limits)
    {extra : List (String × Value)} (h : ∀ f ∈ extra, Context.Joins p f.1) :
    u.issues limits (c.under p) extra = (u.issues limits c extra).map (Issue.under p) := by
  induction extra with
  | nil => cases u <;> rfl
  | cons f rest ih =>
    rw [List.forall_mem_cons] at h
    have ih := ih h.2
    cases u with
    | strip => rfl
    | strict =>
      simp only [issues, List.map_cons, ← Context.under_childKey h.1] at ih ⊢
      rw [ih]
      rfl
    | passthrough =>
      have hscan : Guard.scan limits ((c.childKey f.1).under p) f.2
          = (Guard.scan limits (c.childKey f.1) f.2).map (Issue.under p) := by
        rcases h.1 with hp | hname
        · rw [hp, Context.under_empty, funext Issue.under_empty, Option.map_id']
        · exact Guard.scan_under limits p f.2 _ (Context.join_ne_root_of_name hname)
      simp only [issues, List.filterMap_cons, ← Context.under_childKey h.1, hscan] at ih ⊢
      cases Guard.scan limits (c.childKey f.1) f.2 with
      | none => exact ih
      | some i => exact congrArg (i.under p :: ·) ih

end ValueSchema
