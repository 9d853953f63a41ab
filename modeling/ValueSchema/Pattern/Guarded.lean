/-
Patterns behind a guard.

A guarded pattern is classified once, when it is made. A pattern at risk is never run; a safe
one is run on inputs of bounded length only, and within a deadline. A match takes some time but
not long, so a deadline of zero is always missed and any other is met.
-/
import ValueSchema.Context
import ValueSchema.Guard.Limits
import ValueSchema.Pattern.Meaning
import ValueSchema.Pattern.Risk

set_option autoImplicit false

namespace ValueSchema

/-- A pattern with its risk and, when it may run, the machine that matches it. -/
structure GuardedPattern where
  source : String
  machine : Option Machine
  risk : Option PatternRisk
deriving Inhabited

/-- Why an input was not matched. -/
inductive MatchRefusal
  | inputTooLong (length max : Nat)
  | unsafePattern (risk : PatternRisk)
  | timeout
deriving DecidableEq, Repr

namespace MatchRefusal

def code : MatchRefusal → Code
  | .inputTooLong _ _ => .securityInputTooLong
  | .unsafePattern _ => .securityUnsafePattern
  | .timeout => .securityRegexTimeout

def message : MatchRefusal → String
  | .inputTooLong length max =>
    "input of " ++ Nat.repr length ++ " characters exceeds the limit of " ++ Nat.repr max
  | .unsafePattern risk => "pattern refused: " ++ risk.text
  | .timeout => "regex execution took longer than its deadline"

/-- The issue that reports a refusal. -/
def issue (r : MatchRefusal) (c : Context) : Issue := c.issue r.code r.message

end MatchRefusal

namespace GuardedPattern

/-- The machine of a pattern text. -/
def machineOf? (source : String) : Option Machine :=
  (Pattern.read? source).bind Pattern.toMachine?

/-- A guarded pattern from its text. A pattern at risk is not even read, so only a safe one can
be malformed. -/
def ofText? (source : String) : Option GuardedPattern :=
  match Risk.classify source.toList with
  | some risk => some ⟨source, none, some risk⟩
  | none => (machineOf? source).map fun m => ⟨source, some m, none⟩

/-- Guards a pattern that has been read already. -/
def ofRead? (source : String) : Option GuardedPattern :=
  (machineOf? source).map fun m => ⟨source, some m, Risk.classify source.toList⟩

/-- The pattern would be run. -/
def isSafe (p : GuardedPattern) (limits : Limits) : Bool :=
  p.risk.isNone && p.source.length ≤ limits.maxPatternLen

/-- Matches an input, or tells why not: input length first, then the pattern's risk and length,
then the deadline. -/
def isMatch (p : GuardedPattern) (input : String) (limits : Limits) :
    Except MatchRefusal Bool :=
  if limits.maxRegexInputLen < input.length then
    .error (.inputTooLong input.length limits.maxRegexInputLen)
  else
    match p.risk, p.machine with
    | some risk, _ => .error (.unsafePattern risk)
    | none, none => .error (.unsafePattern .tooLong)
    | none, some m =>
      if limits.maxPatternLen < p.source.length then .error (.unsafePattern .tooLong)
      else if limits.regexTimeoutMs = 0 then .error .timeout
      else .ok (m.isMatch input)

end GuardedPattern

end ValueSchema
