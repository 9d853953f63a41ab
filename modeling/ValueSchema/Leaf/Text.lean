/-
Schemas of texts.

Checks run in a fixed order, whatever the order in which they were asked for: length, pattern,
beginnings, ends and parts, then the formats; the first one that fails is reported. Lengths count
characters. Transforms only shape the output of a text that passed.

The plan of a text schema folds all length checks into one range of lengths and decides most
texts by their size in bytes alone.
-/
import ValueSchema.Pattern.Guarded
import ValueSchema.Format.Uuid
import ValueSchema.Format.Url
import ValueSchema.Leaf.Ranked
import ValueSchema.Text.Occurrence

set_option autoImplicit false

namespace ValueSchema

/-! ## Checks -/

/-- A constraint on a text. -/
inductive TextCheck
  | min (n : Nat)
  | max (n : Nat)
  | length (n : Nat)
  | nonempty
  | pattern (p : GuardedPattern)
  | startsWith (text : String)
  | endsWith (text : String)
  | includes (text : String)
  | email
  | url
  | uuid
  | datetime

namespace TextCheck

/-- The order in which checks run. -/
def rank : TextCheck → Nat
  | min _ => 0
  | max _ => 0
  | length _ => 0
  | nonempty => 0
  | pattern _ => 1
  | startsWith _ => 2
  | endsWith _ => 2
  | includes _ => 2
  | email => 3
  | url => 3
  | uuid => 3
  | datetime => 3

/-- Whether a text passes; a pattern may be refused instead. -/
def holds (c : TextCheck) (limits : Limits) (s : String) : Except MatchRefusal Bool :=
  match c with
  | min n => .ok (n ≤ s.length)
  | max n => .ok (s.length ≤ n)
  | length n => .ok (s.length == n)
  | nonempty => .ok (s.length != 0)
  | pattern p => p.isMatch s limits
  | startsWith text => .ok (text.toList.isPrefixOf s.toList)
  | endsWith text => .ok (text.toList.isSuffixOf s.toList)
  | includes text => .ok (Text.occursIn text.toList s.toList)
  | email => .ok (Format.isEmail s)
  | url => .ok (Format.isUrl s)
  | uuid => .ok (Format.isUuid s)
  | datetime => .ok (Timestamp.isDateTime s)

/-- The issue of a text that fails. -/
def issue (c : TextCheck) (at_ : Context) (s : String) : Issue :=
  let received (i : Issue) : Issue := i.withReceived (.string s)
  match c with
  | min n =>
    (at_.issue .stringTooShort
      ("String must contain at least " ++ Nat.repr n ++ " character(s)")).withDetail
      "minimum" (Value.ofCount n)
  | max n =>
    (at_.issue .stringTooLong
      ("String must contain at most " ++ Nat.repr n ++ " character(s)")).withDetail
      "maximum" (Value.ofCount n)
  | length n =>
    (at_.issue .stringInvalidLength
      ("String must contain exactly " ++ Nat.repr n ++ " character(s)")).withDetail
      "length" (Value.ofCount n)
  | nonempty => at_.issue .stringTooShort "String must not be empty"
  | pattern p =>
    received (at_.issue .stringPatternMismatch
      ("String does not match pattern /" ++ p.source ++ "/"))
  | startsWith text =>
    received (at_.issue .stringInvalidPrefix ("String must start with " ++ Text.quote text))
  | endsWith text =>
    received (at_.issue .stringInvalidSuffix ("String must end with " ++ Text.quote text))
  | includes text =>
    received (at_.issue .stringMissingSubstring ("String must include " ++ Text.quote text))
  | email => received (at_.issue .invalidEmail "Invalid email address")
  | url => received (at_.issue .invalidUrl "Invalid URL")
  | uuid => received (at_.issue .invalidUuid "Invalid UUID")
  | datetime => received (at_.issue .invalidDatetime "Invalid ISO 8601 datetime")

end TextCheck

/-- A change to a text that passed. -/
inductive TextTransform
  | trim
  | lowercase
  | uppercase
deriving DecidableEq, Repr

def TextTransform.apply (t : TextTransform) (s : List Char) : List Char :=
  match t with
  | .trim => Text.trim s
  | .lowercase => Text.toLower s
  | .uppercase => Text.toUpper s

/-! ## Schemas -/

/-- A schema of texts: its checks in running order, its transforms in order, and the limits of
its patterns. -/
structure TextSchema where
  checks : List TextCheck
  transforms : List TextTransform
  limits : Limits

namespace TextSchema

/-- Any text. -/
def any : TextSchema := ⟨[], [], Limits.standard⟩

/-- Adds a check at its place. -/
def check (s : TextSchema) (c : TextCheck) : TextSchema :=
  ⟨Ranked.insert TextCheck.rank c s.checks, s.transforms, s.limits⟩

/-- Adds a transform behind the others. -/
def transform (s : TextSchema) (t : TextTransform) : TextSchema :=
  ⟨s.checks, s.transforms ++ [t], s.limits⟩

def withLimits (s : TextSchema) (limits : Limits) : TextSchema :=
  ⟨s.checks, s.transforms, limits⟩

/-- Why a text fails: a check, or a refusal to run a pattern. -/
inductive Failure
  | check (c : TextCheck)
  | refused (r : MatchRefusal)

/-- The first failure among checks. -/
def failureAmong? (limits : Limits) (s : String) : List TextCheck → Option Failure
  | [] => none
  | c :: rest =>
    match c.holds limits s with
    | .ok true => failureAmong? limits s rest
    | .ok false => some (.check c)
    | .error r => some (.refused r)

def firstFailure? (t : TextSchema) (s : String) : Option Failure :=
  failureAmong? t.limits s t.checks

/-- The output for a text that passed. -/
def output (t : TextSchema) (s : String) : String :=
  match t.transforms with
  | [] => s
  | ts => String.ofList (ts.foldl (fun l x => x.apply l) s.toList)

def run (t : TextSchema) (c : Context) (v : Value) : Verdict :=
  match v with
  | .string s =>
    match t.firstFailure? s with
    | none => .ok (.string (t.output s))
    | some (.check k) => Verdict.reject (k.issue c s)
    | some (.refused r) => Verdict.reject (r.issue c)
  | v => Verdict.reject (c.typeMismatch .notString "string" v)

def accepts (t : TextSchema) (v : Value) : Bool :=
  match v with
  | .string s => (t.firstFailure? s).isNone
  | _ => false

end TextSchema

/-! ## Plans -/

/-- A folded text schema: a range of lengths and the checks that are left. -/
structure TextPlan where
  minChars : Nat
  maxChars : Option Nat
  checks : List TextCheck
  limits : Limits

namespace TextPlan

def start (limits : Limits) : TextPlan := ⟨0, none, [], limits⟩

/-- Lengths from `n` on. -/
def atLeast (p : TextPlan) (n : Nat) : TextPlan :=
  ⟨max p.minChars n, p.maxChars, p.checks, p.limits⟩

/-- Lengths up to `n`. -/
def atMost (p : TextPlan) (n : Nat) : TextPlan :=
  ⟨p.minChars, some (match p.maxChars with | none => n | some m => min m n), p.checks, p.limits⟩

/-- Folds one check into a plan. -/
def fold (p : TextPlan) (c : TextCheck) : TextPlan :=
  match c with
  | .min n => p.atLeast n
  | .max n => p.atMost n
  | .length n => (p.atLeast n).atMost n
  | .nonempty => p.atLeast 1
  | c => ⟨p.minChars, p.maxChars, p.checks ++ [c], p.limits⟩

/-- A size is over a bound that may be absent. -/
def exceeds (n : Nat) (bound : Option Nat) : Bool :=
  match bound with
  | none => false
  | some m => decide (m < n)

/-- A text fits the plan. As a character has at least one byte, a text with too few bytes has
too few characters, and one with few enough bytes has few enough characters. -/
def accepts (p : TextPlan) (s : String) : Bool :=
  let bytes := s.utf8ByteSize
  if bytes < p.minChars then false
  else if (0 < p.minChars || exceeds bytes p.maxChars)
      && (s.length < p.minChars || exceeds s.length p.maxChars) then false
  else
    p.checks.all fun c =>
      match c.holds p.limits s with
      | .ok b => b
      | .error _ => false

end TextPlan

/-- The plan of a text schema. -/
def TextSchema.plan (t : TextSchema) : TextPlan :=
  t.checks.foldl TextPlan.fold (TextPlan.start t.limits)

end ValueSchema
