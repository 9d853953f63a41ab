/-
Code that callers supply.

A schema may call predicates, mappers and refiners of its caller's. Such code can crash. A crash
is one more outcome of a call: it fails the one value that was being judged and is reported as
an issue there, so nothing a caller's code does escapes a judgement.
-/
import ValueSchema.Context

set_option autoImplicit false

namespace ValueSchema

/-! ## Crashes -/

/-- What a crash carries: a text, or something that is no text. -/
inductive Crash
  | text (message : String)
  | other
deriving DecidableEq, Repr, Inhabited

def Crash.message : Crash → String
  | text message => message
  | other => "user code panicked"

/-! ## Kinds of code -/

/-- Code that decides about a value. -/
abbrev Predicate := Value → Except Crash Bool

/-- What a mapper that did not crash answers: a value, or the message of its failure. -/
abbrev Mapped := Except String Value

/-- Code that maps a value. A container that it builds is built at the site it is given. -/
abbrev Mapper := Site → Value → Except Crash Mapped

/-- An answer that is waited for: the code can crash when it is started and while it is awaited. -/
abbrev Deferred (α : Type) := Except Crash (Except Crash α)

/-- The answer once it is there. -/
def Deferred.await {α : Type} : Deferred α → Except Crash α
  | .ok answer => answer
  | .error crash => .error crash

abbrev DeferredPredicate := Value → Deferred Bool

abbrev DeferredMapper := Site → Value → Deferred Mapped

/-- What a refiner reports: an issue about the value, about a part of it, or an issue made by
hand whose path is relative to the value. -/
inductive Report
  | here (message : String)
  | below (path message : String)
  | issue (i : Issue)

/-- Code that is told the path of a value, looks at the value, makes reports and decides. The
reports made before a crash stand. -/
abbrev Refiner := String → Value → List Report × Except Crash Bool

/-! ## Calls -/

/-- The issue of a report made about the value at a context. -/
def Report.toIssue (c : Context) : Report → Issue
  | here message => c.issue .custom message
  | below path message => (c.atKey path).issue .custom message
  | issue i => i.atPath (if i.path = "" then c.path else (c.atKey i.path).path)

/-- The issue of a crash in code that checks a value. -/
def Crash.refinementIssue (crash : Crash) (c : Context) : Issue :=
  c.issue .refinementFailed ("Refinement panicked: " ++ crash.message)

/-- The issue of a crash in code that maps a value. -/
def Crash.transformIssue (crash : Crash) (c : Context) : Issue :=
  c.issue .transformFailed ("Transform panicked: " ++ crash.message)

/-- The verdict that a predicate's answer gives on a value. -/
def Verdict.ofCheck (answer : Except Crash Bool) (message : String) (c : Context) (v : Value) :
    Verdict :=
  match answer with
  | .ok true => .ok v
  | .ok false => Verdict.reject (c.issue .refinementFailed message)
  | .error crash => Verdict.reject (crash.refinementIssue c)

/-- The verdict that a mapper's answer gives. -/
def Verdict.ofMapped (answer : Except Crash Mapped) (c : Context) : Verdict :=
  match answer with
  | .ok (.ok v) => .ok v
  | .ok (.error message) => Verdict.reject (c.issue .transformFailed message)
  | .error crash => Verdict.reject (crash.transformIssue c)

/-- The verdict of a refiner on a value. What it reported counts more than what it decided. -/
def Verdict.ofRefiner (refiner : Refiner) (c : Context) (v : Value) : Verdict :=
  let (reports, answer) := refiner c.path v
  match Issues.ofList? (reports.map (Report.toIssue c)) with
  | some issues => .error issues
  | none => Verdict.ofCheck answer "Refinement failed" c v

end ValueSchema
