/-
Records and maps.

Both judge keys and values alike. The key of a record entry is a text and stands, as its value
does, at the path of the key; a text that the key schema makes of it becomes the key of the output.
A map entry stands at its position, its two parts under `key` and `value`.
-/
import ValueSchema.Judgement.Object

set_option autoImplicit false

namespace ValueSchema

/-! ## Records -/

namespace Record

/-- The key of an output entry: what the key schema made of the key, if that is a text. -/
def outputKey (key : String) (output : Value) : String := output.string?.getD key

/-- The verdict on a key; without a key schema every key passes. -/
def judgeKey (keyJudge : Option Judge) (s : Site) (key : String) (c : Context) :
    Option Verdict :=
  match keyJudge with
  | some judge => judge s (.string key) c
  | none => some (.ok (.string key))

/-- One entry with the verdicts on its key and on its value. -/
structure Entry where
  key : String
  keyVerdict : Verdict
  valueVerdict : Verdict

namespace Entry

def issues (e : Entry) : List Issue := e.keyVerdict.issues ++ e.valueVerdict.issues

/-- The output of an entry, unless its value came to undefined. -/
def output? (e : Entry) : Option (String × Value) :=
  match e.keyVerdict, e.valueVerdict with
  | .ok _, .ok .undefined => none
  | .ok k, .ok v => some (outputKey e.key k, v)
  | _, _ => none

end Entry

/-- The verdicts on the entries from a position on. -/
def judgeEntries (keyJudge : Option Judge) (valueJudge : Judge) (s : Site) (c : Context) :
    Nat → List (String × Value) → Option (List Entry)
  | _, [] => some []
  | n, (key, v) :: rest => do
    let keyVerdict ← judgeKey keyJudge ((s.child n).child 0) key (c.childKey key)
    let valueVerdict ← valueJudge ((s.child n).child 1) v (c.childKey key)
    let others ← judgeEntries keyJudge valueJudge s c (n + 1) rest
    some (⟨key, keyVerdict, valueVerdict⟩ :: others)

/-- Judges an object entry by entry. -/
def judge (keyJudge : Option Judge) (valueJudge : Judge) (limits : Limits) : Judge :=
  fun s v c =>
    match guardedFields limits c v with
    | .error i => some (Verdict.reject i)
    | .ok input => do
      let entries ← judgeEntries keyJudge valueJudge s c 0 input
      some (Verdict.finish (entries.flatMap Entry.issues)
        (Value.ofEntries s.ident (entries.filterMap Entry.output?)))

/-- A key passes. -/
def testKey (keyTest : Option Test) (s : Site) (key : String) (depth : Nat) : Option Bool :=
  match keyTest with
  | some test => test s (.string key) depth
  | none => some true

/-- The entries from a position on pass. -/
def testEntries (keyTest : Option Test) (valueTest : Test) (s : Site) (depth : Nat) :
    Nat → List (String × Value) → Option Bool
  | _, [] => some true
  | n, (key, v) :: rest =>
    Test.both (testKey keyTest ((s.child n).child 0) key (depth + 1)) fun _ =>
      Test.both (valueTest ((s.child n).child 1) v (depth + 1)) fun _ =>
        testEntries keyTest valueTest s depth (n + 1) rest

/-- Tests an object entry by entry. -/
def test (keyTest : Option Test) (valueTest : Test) (limits : Limits) : Test :=
  fun s v depth =>
    match guardedFields? limits depth v with
    | none => some false
    | some input => testEntries keyTest valueTest s depth 0 input

end Record

/-! ## Maps -/

namespace Dictionary

/-- The verdicts on the entries from a position on, key and value of each. -/
def judgeEntries (keyJudge valueJudge : Judge) (s : Site) (c : Context) :
    Nat → List (Value × Value) → Option (List (Verdict × Verdict))
  | _, [] => some []
  | n, (k, v) :: rest => do
    let keyVerdict ← keyJudge ((s.child n).child 0) k ((c.childIndex n).atKey "key")
    let valueVerdict ← valueJudge ((s.child n).child 1) v ((c.childIndex n).atKey "value")
    let others ← judgeEntries keyJudge valueJudge s c (n + 1) rest
    some ((keyVerdict, valueVerdict) :: others)

/-- The output of an entry. -/
def output? (e : Verdict × Verdict) : Option (Value × Value) :=
  match e with
  | (.ok k, .ok v) => some (k, v)
  | _ => none

/-- Judges a map entry by entry. -/
def judge (keyJudge valueJudge : Judge) (limits : Limits) : Judge := fun s v c =>
  match v with
  | .map _ entries =>
    match Guard.checkDepth c.depth limits with
    | .error r => some (Verdict.reject (r.issue c))
    | .ok () => do
      let verdicts ← judgeEntries keyJudge valueJudge s c 0 entries
      some (Verdict.finish (verdicts.flatMap fun e => e.1.issues ++ e.2.issues)
        (.map s.ident (verdicts.filterMap output?)))
  | v => some (Verdict.reject (c.typeMismatch .notMap "map" v))

/-- The entries from a position on pass. -/
def testEntries (keyTest valueTest : Test) (s : Site) (depth : Nat) :
    Nat → List (Value × Value) → Option Bool
  | _, [] => some true
  | n, (k, v) :: rest =>
    Test.both (keyTest ((s.child n).child 0) k (depth + 1)) fun _ =>
      Test.both (valueTest ((s.child n).child 1) v (depth + 1)) fun _ =>
        testEntries keyTest valueTest s depth (n + 1) rest

/-- Tests a map entry by entry. -/
def test (keyTest valueTest : Test) (limits : Limits) : Test := fun s v depth =>
  match v with
  | .map _ entries =>
    if (Guard.checkDepth depth limits).isOk then testEntries keyTest valueTest s depth 0 entries
    else some false
  | _ => some false

end Dictionary

end ValueSchema
