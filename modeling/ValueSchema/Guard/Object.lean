/-
The guard against prototype pollution and deep nesting.

A key that could rewrite a prototype chain is refused wherever it stands, and so is a container
below the depth limit. `Guard.scan` applies both to a whole value, as values that pass through a
schema unexamined must be, and `Guard.scanAccepts` is the same judgement without the report.
-/
import ValueSchema.Context
import ValueSchema.Guard.Limits

set_option autoImplicit false

namespace ValueSchema.Guard

/-! ## Refusals -/

/-- The keys that are never allowed. -/
def dangerousKeys : List String :=
  ["__proto__", "constructor", "prototype", "__defineGetter__", "__defineSetter__",
    "__lookupGetter__", "__lookupSetter__"]

/-- Why an object or container was refused. -/
inductive Refusal
  | dangerousKey (key : String)
  | tooDeep (depth max : Nat)
deriving DecidableEq, Repr

def Refusal.code : Refusal → Code
  | .dangerousKey _ => .securityDangerousKey
  | .tooDeep _ _ => .securityMaxDepth

def Refusal.message : Refusal → String
  | .dangerousKey key => "object carries the forbidden key \"" ++ key ++ "\""
  | .tooDeep depth max =>
    "nesting depth " ++ Nat.repr depth ++ " exceeds the limit of " ++ Nat.repr max

/-- The issue that reports a refusal. -/
def Refusal.issue (r : Refusal) (c : Context) : Issue := c.issue r.code r.message

/-! ## Checks -/

def isDangerous (key : String) : Bool := dangerousKeys.contains key

/-- A container at this depth is within the limit. -/
def checkDepth (depth : Nat) (limits : Limits) : Except Refusal Unit :=
  if limits.maxDepth < depth then .error (.tooDeep depth limits.maxDepth) else .ok ()

/-- No key of an object is dangerous; otherwise the first one is reported. -/
def checkKeys (keys : List String) : Except Refusal Unit :=
  match keys.find? isDangerous with
  | some key => .error (.dangerousKey key)
  | none => .ok ()

/-- Depth first, then keys. -/
def checkObject (keys : List String) (depth : Nat) (limits : Limits) : Except Refusal Unit :=
  match checkDepth depth limits with
  | .error r => .error r
  | .ok () => checkKeys keys

/-! ## Whole values -/

mutual

/-- The first refusal inside a value that stands at a context, if any. -/
def scan (limits : Limits) (c : Context) : Value → Option Issue
  | .object _ fields =>
    match checkObject (Keyed.keys fields) c.depth limits with
    | .error r => some (r.issue c)
    | .ok () => scanFields limits c fields
  | .array _ items =>
    match checkDepth c.depth limits with
    | .error r => some (r.issue c)
    | .ok () => scanItems limits c 0 items
  | .set _ items =>
    match checkDepth c.depth limits with
    | .error r => some (r.issue c)
    | .ok () => scanItems limits c 0 items
  | .map _ entries =>
    match checkDepth c.depth limits with
    | .error r => some (r.issue c)
    | .ok () => scanEntries limits c 0 entries
  | _ => none

def scanFields (limits : Limits) (c : Context) : List (String × Value) → Option Issue
  | [] => none
  | (k, v) :: rest =>
    match scan limits (c.childKey k) v with
    | some i => some i
    | none => scanFields limits c rest

def scanItems (limits : Limits) (c : Context) (index : Nat) : List Value → Option Issue
  | [] => none
  | v :: rest =>
    match scan limits (c.childIndex index) v with
    | some i => some i
    | none => scanItems limits c (index + 1) rest

def scanEntries (limits : Limits) (c : Context) (index : Nat) :
    List (Value × Value) → Option Issue
  | [] => none
  | (k, v) :: rest =>
    match scan limits ((c.childIndex index).atKey "key") k with
    | some i => some i
    | none =>
      match scan limits ((c.childIndex index).atKey "value") v with
      | some i => some i
      | none => scanEntries limits c (index + 1) rest

end

mutual

/-- Nothing inside a value at this depth is refused. -/
def scanAccepts (limits : Limits) (depth : Nat) : Value → Bool
  | .object _ fields =>
    (checkObject (Keyed.keys fields) depth limits).isOk && scanAcceptsFields limits depth fields
  | .array _ items =>
    (checkDepth depth limits).isOk && scanAcceptsItems limits depth items
  | .set _ items =>
    (checkDepth depth limits).isOk && scanAcceptsItems limits depth items
  | .map _ entries =>
    (checkDepth depth limits).isOk && scanAcceptsEntries limits depth entries
  | _ => true

def scanAcceptsFields (limits : Limits) (depth : Nat) : List (String × Value) → Bool
  | [] => true
  | (_, v) :: rest =>
    scanAccepts limits (depth + 1) v && scanAcceptsFields limits depth rest

def scanAcceptsItems (limits : Limits) (depth : Nat) : List Value → Bool
  | [] => true
  | v :: rest => scanAccepts limits (depth + 1) v && scanAcceptsItems limits depth rest

def scanAcceptsEntries (limits : Limits) (depth : Nat) : List (Value × Value) → Bool
  | [] => true
  | (k, v) :: rest =>
    scanAccepts limits (depth + 1) k && scanAccepts limits (depth + 1) v
      && scanAcceptsEntries limits depth rest

end

end ValueSchema.Guard
