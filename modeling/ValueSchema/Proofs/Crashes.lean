/-
Crashes of a caller's code.

A node calls code of a caller's at seven places: a predicate or a refiner looks at an output, a
mapper works on an output or on an input, and all but the refiner can be waited for as well.
Wherever such code crashes, the node rejects the value, in whatever form the schema judges. What is
told of the crash is another matter. A predicate or a mapper has nothing to say before it crashes,
so its crash is the one issue, at the path of the node, and the message of the issue carries the
message of the crash. A refiner may have made reports by then, and what was reported is all that is
told: the crash is found among the issues exactly if there were no reports, or if one of them
happens to say the same.
-/
import ValueSchema.Proofs.Awaiting.Schemas
import ValueSchema.Proofs.Compiled.Nodes
import ValueSchema.UserCode.Vocabulary

set_option autoImplicit false

namespace ValueSchema

/-! ## Calls that crash -/

namespace Modifier

/-- The code that a modifier calls around a judge crashes on what reaches it, the output of the
judge or the input before the judge, with the reports that it has made by then. Code that is waited
for crashes when it is started or while it is awaited, and is called only where it is waited for. -/
inductive Crashes (mode : Mode) (inner : Judge) (s : Site) (v : Value) (c : Context) :
    Modifier → List Report → Crash → Prop
  | refine {check : Predicate} {text : String} {output : Value} {crash : Crash}
      (reached : inner s v c = some (.ok output)) (crashed : check output = .error crash) :
      Crashes mode inner s v c (.refine check text) [] crash
  | superRefine {refiner : Refiner} {output : Value} {crash : Crash}
      (reached : inner s v c = some (.ok output))
      (crashed : (refiner c.path output).2 = .error crash) :
      Crashes mode inner s v c (.superRefine refiner) (refiner c.path output).1 crash
  | transform {mapper : Mapper} {output : Value} {crash : Crash}
      (reached : inner (s.child 0) v c = some (.ok output))
      (crashed : mapper (s.child 1) output = .error crash) :
      Crashes mode inner s v c (.transform mapper) [] crash
  | preprocess {mapper : Mapper} {crash : Crash} (crashed : mapper (s.child 0) v = .error crash) :
      Crashes mode inner s v c (.preprocess mapper) [] crash
  | refineAsync {check : DeferredPredicate} {text : String} {output : Value} {crash : Crash}
      (waited : mode = .async) (reached : inner s v c = some (.ok output))
      (crashed : (check output).await = .error crash) :
      Crashes mode inner s v c (.refineAsync check text) [] crash
  | transformAsync {mapper : DeferredMapper} {output : Value} {crash : Crash}
      (waited : mode = .async) (reached : inner (s.child 0) v c = some (.ok output))
      (crashed : (mapper (s.child 1) output).await = .error crash) :
      Crashes mode inner s v c (.transformAsync mapper) [] crash
  | preprocessAsync {mapper : DeferredMapper} {crash : Crash} (waited : mode = .async)
      (crashed : (mapper (s.child 0) v).await = .error crash) :
      Crashes mode inner s v c (.preprocessAsync mapper) [] crash

/-- The code of the issue of a crash: the code of a modifier checks a value, or maps it. -/
def crashCode : Modifier → Code
  | refine _ _ => .refinementFailed
  | superRefine _ => .refinementFailed
  | refineAsync _ _ => .refinementFailed
  | _ => .transformFailed

/-- The issue of a crash in the code of a modifier. -/
def crashIssue (m : Modifier) (crash : Crash) (c : Context) : Issue :=
  match m.crashCode with
  | .refinementFailed => crash.refinementIssue c
  | _ => crash.transformIssue c

end Modifier

/-! ## What is told of a crash -/

section

/-- An issue tells of a crash: it stands at the path, it has the code, and its message carries the
message of the crash. -/
structure Issue.TellsOf (i : Issue) (crash : Crash) (code : Code) (path : String) : Prop where
  path_eq : i.path = path
  code_eq : i.code = code
  carries : crash.message.toList <:+: i.message.toList

variable {mode : Mode} {inner : Judge} {s : Site} {v : Value} {c : Context} {m : Modifier}
  {reports : List Report} {crash : Crash}

theorem Issue.tellsOf_issue (crash : Crash) (code : Code) (what : String) (c : Context) :
    (c.issue code (what ++ crash.message)).TellsOf crash code c.path where
  path_eq := rfl
  code_eq := rfl
  carries := by
    show crash.message.toList <:+: (what ++ crash.message).toList
    rw [String.toList_append]
    exact (List.suffix_append _ _).isInfix

theorem Modifier.crashIssue_tells (m : Modifier) (crash : Crash) (c : Context) :
    (m.crashIssue crash c).TellsOf crash m.crashCode c.path := by
  rcases m with _ | _ | _ | _ | _ | _ | _ | _ | _ | _ | _ | _ | _ <;>
    exact Issue.tellsOf_issue crash _ _ c

/-- The issues of reports, or one issue if nothing was reported. -/
def Issues.ofReports (reports : List Report) (c : Context) (otherwise : Issue) : Issues :=
  (Issues.ofList? (reports.map (Report.toIssue c))).getD (.single otherwise)

namespace Issues

theorem ofReports_nil (c : Context) (otherwise : Issue) :
    ofReports [] c otherwise = .single otherwise := rfl

theorem toList_ofReports (h : reports ≠ []) (c : Context) (otherwise : Issue) :
    (ofReports reports c otherwise).toList = reports.map (Report.toIssue c) := by
  cases reports with
  | nil => exact absurd rfl h
  | cons r rest => rfl

end Issues

/-- **A crash rejects the value**, with what was reported before it, or with the issue of the
crash. -/
theorem Modifier.Crashes.judge_eq (h : m.Crashes mode inner s v c reports crash) :
    m.judge mode inner s v c
      = some (.error (Issues.ofReports reports c (m.crashIssue crash c))) := by
  cases h with
  | refine reached crashed =>
    simp only [judge, Judge.checkOutput, reached, Option.bind_eq_bind, Option.bind_some,
      Verdict.andThen, Verdict.ofCheck, crashed]
    rfl
  | @superRefine refiner output _ reached crashed =>
    simp only [judge, Judge.checkOutput, reached, Option.bind_eq_bind, Option.bind_some,
      Verdict.andThen, Verdict.ofRefiner, Verdict.ofCheck, crashed, Issues.ofReports]
    -- reports count more than what became of the refiner
    cases Issues.ofList? ((refiner c.path output).1.map (Report.toIssue c)) <;> rfl
  | transform reached crashed =>
    simp only [judge, Judge.mapOutput, reached, Option.bind_eq_bind, Option.bind_some,
      Verdict.andThen, Verdict.ofMapped, crashed]
    rfl
  | preprocess crashed =>
    simp only [judge, Judge.mapInput, Verdict.ofMapped, crashed]
    rfl
  | refineAsync waited reached crashed =>
    subst waited
    simp only [judge, Judge.checkOutput, reached, Option.bind_eq_bind, Option.bind_some,
      Verdict.andThen, Verdict.ofCheck, crashed]
    rfl
  | transformAsync waited reached crashed =>
    subst waited
    simp only [judge, Judge.mapOutput, reached, Option.bind_eq_bind, Option.bind_some,
      Verdict.andThen, Verdict.ofMapped, crashed]
    rfl
  | preprocessAsync waited crashed =>
    subst waited
    simp only [judge, Judge.mapInput, Verdict.ofMapped, crashed]
    rfl

end

/-! ## The forms of a schema -/

/-- A form in which schemas judge, over what references mean in it. -/
inductive Form
  | interpreted (resolve : Resolution)
  | compiled (resolve : Resolution)
  | waiting (resolve : Reference → Judge)

namespace Form

variable {s : Site} {v : Value} {c : Context} {m : Modifier} {reports : List Report} {crash : Crash}

/-- Deferred code is called by the form that waits for it. -/
def mode : Form → Mode
  | interpreted _ => .sync
  | compiled _ => .sync
  | waiting _ => .async

/-- The judge of a schema. -/
def judge : Form → Schema → Judge
  | interpreted resolve, schema => (schema.evaluator .sync resolve).judge
  | compiled resolve, schema => (schema.compile resolve).judge
  | waiting resolve, schema => schema.awaiter resolve

/-- In each form a node whose code crashes judges by its modifier around the schema inside. -/
theorem judge_of_crashes {form : Form} {schema : Schema}
    (h : m.Crashes form.mode (form.judge schema) s v c reports crash) :
    form.judge (.modified m schema) = m.judge form.mode (form.judge schema) := by
  cases form with
  | interpreted resolve => rfl
  | waiting resolve => exact Modifier.await_eq_judge m _
  | compiled resolve =>
    -- what is told from an accepted input alone is the output of no such node
    have hslow : (schema.compile resolve).output.bind
        (Output.modified m (schema.compile resolve).test) = none := by
      cases h with
      | refineAsync waited => cases waited
      | transformAsync waited => cases waited
      | preprocessAsync waited => cases waited
      | _ => cases (schema.compile resolve).output <;> rfl
    show (Node.modified m (schema.compile resolve)).judge = _
    unfold Node.modified Node.new
    rw [hslow]
    rfl

/-- **What becomes of a crash.** In every form of a schema, at every node, the value is rejected. If
nothing was reported before, the one issue tells of the crash; otherwise the issues are those of the
reports, and the crash is told of only if one of them tells of it. -/
theorem crash_told_iff {form : Form} {schema : Schema}
    (h : m.Crashes form.mode (form.judge schema) s v c reports crash) :
    ∃ e : Issues, form.judge (.modified m schema) s v c = some (.error e)
      ∧ (reports = [] → e.toList = [m.crashIssue crash c])
      ∧ (reports ≠ [] → e.toList = reports.map (Report.toIssue c))
      ∧ ((∃ i ∈ e.toList, i.TellsOf crash m.crashCode c.path)
          ↔ reports = [] ∨ ∃ r ∈ reports, (r.toIssue c).TellsOf crash m.crashCode c.path) := by
  refine ⟨_, (congrFun (congrFun (congrFun (judge_of_crashes h) s) v) c).trans h.judge_eq, ?_, ?_,
    ?_⟩
  · rintro rfl
    rfl
  · exact fun hreports => Issues.toList_ofReports hreports c _
  · by_cases hreports : reports = []
    · subst hreports
      exact iff_of_true ⟨_, List.mem_cons_self, m.crashIssue_tells crash c⟩ (.inl rfl)
    · rw [Issues.toList_ofReports hreports, or_iff_right hreports]
      simp only [List.mem_map, exists_exists_and_eq_and]

/-- The crash of a mapper that is waited for is told of. -/
theorem awaited_crash_told :
    ∃ e : Issues,
      (waiting fun _ _ _ _ => none).judge
        (.modified (.transformAsync (Mapper.crash (.text "boom")).deferred) (.plain .any))
        (Site.root 0) .null Context.root = some (.error e)
        ∧ ∃ i ∈ e.toList, i.TellsOf (.text "boom") .transformFailed "" := by
  have hcrash : (Modifier.transformAsync (Mapper.crash (.text "boom")).deferred).Crashes
      (waiting fun _ _ _ _ => none).mode
      ((waiting fun _ _ _ _ => none).judge (.plain .any)) (Site.root 0) .null Context.root []
      (.text "boom") := .transformAsync rfl rfl rfl
  obtain ⟨e, he, -, -, htold⟩ := crash_told_iff hcrash
  exact ⟨e, he, htold.2 (.inl rfl)⟩

end Form

/-- A refiner that makes a report and then crashes: the report is told, the crash is not. -/
theorem Schema.reported_crash_untold :
    (Statement.refiner [.report (.here "weak"), .crash (.text "boom")] "" .null).2
        = .error (.text "boom")
      ∧ ∃ e : Issues,
        (Schema.modified
          (.superRefine (Statement.refiner [.report (.here "weak"), .crash (.text "boom")]))
          (.plain .any)).validateIn [] .null Context.root = some (.error e)
        ∧ ¬∃ i ∈ e.toList, i.TellsOf (.text "boom") .refinementFailed "" := by
  refine ⟨rfl, .single (Context.root.issue .custom "weak"), rfl, ?_⟩
  rintro ⟨i, hi, htold⟩
  obtain rfl := List.mem_singleton.1 hi
  cases htold.code_eq

end ValueSchema
