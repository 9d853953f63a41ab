/-
Judgements that wait.

Code of a caller's may answer later, and a judgement that waits for it has traversals of its own.
They ask for one part after the other, each one only when the one before is there, and gather
outputs and issues as they come: there is no list of verdicts to look at in the end. Whatever looks
at one value as a whole is shared with the other judgements: guards, sizes, tags, merging, and the
treatment of undeclared fields.
-/
import ValueSchema.Judgement.Object
import ValueSchema.Judgement.Sequence
import ValueSchema.Judgement.Entry
import ValueSchema.Judgement.Union
import ValueSchema.Judgement.Intersection
import ValueSchema.Judgement.Modified

set_option autoImplicit false

namespace ValueSchema

/-! ## Gathering -/

/-- The outputs and the issues of the parts that are there already. -/
structure Gathered (α : Type) where
  outputs : List α
  issues : List Issue

namespace Gathered

variable {α : Type}

def nothing : Gathered α := ⟨[], []⟩

/-- One more output. -/
def add (g : Gathered α) (output : α) : Gathered α := ⟨g.outputs ++ [output], g.issues⟩

/-- Further issues. -/
def report (g : Gathered α) (issues : List Issue) : Gathered α := ⟨g.outputs, g.issues ++ issues⟩

/-- The verdict on one element. -/
def collect (g : Gathered Value) (verdict : Verdict) : Gathered Value :=
  match verdict with
  | .ok v => g.add v
  | .error e => g.report e.toList

/-- The verdict on a declared field. -/
def collectField (g : Gathered (String × Value)) (key : String) (verdict : Verdict) :
    Gathered (String × Value) :=
  match verdict with
  | .ok .undefined => g
  | .ok v => g.add (key, v)
  | .error e => g.report e.toList

/-- The verdicts on the key and on the value of a record entry. The issues of the key are there
before the value is asked for. -/
def collectEntry (g : Gathered (String × Value)) (key : String)
    (keyVerdict valueVerdict : Verdict) : Gathered (String × Value) :=
  let g := g.report keyVerdict.issues
  match keyVerdict, valueVerdict with
  | _, .ok .undefined => g
  | .error _, .ok _ => g
  | .ok k, .ok v => ⟨Keyed.insert (Record.outputKey key k) v g.outputs, g.issues⟩
  | _, .error e => g.report e.toList

/-- The verdicts on the key and on the value of a map entry. -/
def collectPair (g : Gathered (Value × Value)) (keyVerdict valueVerdict : Verdict) :
    Gathered (Value × Value) :=
  match keyVerdict, valueVerdict with
  | .ok k, .ok v => g.add (k, v)
  | k, v => (g.report k.issues).report v.issues

/-- The verdict on a container, once all of its parts are there. -/
def finish (g : Gathered α) (build : List α → Value) : Verdict :=
  Verdict.finish g.issues (build g.outputs)

end Gathered

/-! ## Arrays, tuples and sets -/

/-- Waits for the elements of a sequence from a position on. An element that no judge is in charge
of is passed over. -/
def awaitFrom (judgeAt : Nat → Option Judge) (s : Site) (c : Context) :
    Nat → Gathered Value → List Value → Option (Gathered Value)
  | _, g, [] => some g
  | n, g, v :: rest =>
    match judgeAt n with
    | none => awaitFrom judgeAt s c (n + 1) g rest
    | some judge => do
      let verdict ← judge (s.child n) v (c.childIndex n)
      awaitFrom judgeAt s c (n + 1) (g.collect verdict) rest

/-- Waits for an array element by element. -/
def ArrayBounds.await (b : ArrayBounds) (element : Judge) : Judge := fun s v c =>
  match guardedItems b.limits c v with
  | .error i => some (Verdict.reject i)
  | .ok items =>
    match b.fault? items with
    | some fault => some (Verdict.reject (fault.issue "Array" c))
    | none => do
      let g ← awaitFrom (fun _ => some element) s c 0 .nothing items
      some (g.finish (.array s.ident))

/-- Waits for an array place by place. -/
def Tuple.await (items : List Judge) (rest : Option Judge) (limits : Limits) : Judge :=
  fun s v c =>
  match guardedItems limits c v with
  | .error i => some (Verdict.reject i)
  | .ok elements =>
    match fault? items.length rest.isSome elements.length with
    | some fault => some (Verdict.reject (fault.issue "Tuple" c))
    | none => do
      let g ← awaitFrom (childAt items rest) s c 0 .nothing elements
      some (g.finish (.array s.ident))

/-- Waits for a set element by element. -/
def SetBounds.await (b : SetBounds) (element : Judge) : Judge := fun s v c =>
  match v with
  | .set _ items =>
    match Guard.checkDepth c.depth b.limits with
    | .error r => some (Verdict.reject (r.issue c))
    | .ok () =>
      match b.fault? c items.length with
      | some i => some (Verdict.reject i)
      | none => do
        let g ← awaitFrom (fun _ => some element) s c 0 .nothing items
        some (g.finish (Value.ofElements s.ident))
  | v => some (Verdict.reject (c.typeMismatch .notSet "set" v))

/-! ## Objects, records and maps -/

namespace Shape

/-- Waits for the declared fields from a position on. -/
def awaitFields (s : Site) (c : Context) (input : List (String × Value)) :
    Nat → Gathered (String × Value) → List (String × Judge) → Option (Gathered (String × Value))
  | _, g, [] => some g
  | n, g, (key, judge) :: rest => do
    let verdict ← judge (s.child n) (fieldOr key input) (c.childKey key)
    awaitFields s c input (n + 1) (g.collectField key verdict) rest

/-- Waits for an object field by field. -/
def await (shape : Shape Judge) : Judge := fun s v c =>
  match guardedFields shape.limits c v with
  | .error i => some (Verdict.reject i)
  | .ok input => do
    let g ← awaitFields s c input 0 .nothing shape.fields
    let extra := undeclared shape.keys input
    some ((g.report (shape.unknown.issues shape.limits c extra)).finish fun fields =>
      .object s.ident (fields ++ shape.unknown.kept extra))

end Shape

namespace Record

/-- Waits for the entries from a position on, the key of each before its value. -/
def awaitEntries (keyJudge : Option Judge) (valueJudge : Judge) (s : Site) (c : Context) :
    Nat → Gathered (String × Value) → List (String × Value) → Option (Gathered (String × Value))
  | _, g, [] => some g
  | n, g, (key, v) :: rest => do
    let keyVerdict ← judgeKey keyJudge ((s.child n).child 0) key (c.childKey key)
    let valueVerdict ← valueJudge ((s.child n).child 1) v (c.childKey key)
    awaitEntries keyJudge valueJudge s c (n + 1) (g.collectEntry key keyVerdict valueVerdict) rest

/-- Waits for an object entry by entry. -/
def await (keyJudge : Option Judge) (valueJudge : Judge) (limits : Limits) : Judge :=
  fun s v c =>
    match guardedFields limits c v with
    | .error i => some (Verdict.reject i)
    | .ok input => do
      let g ← awaitEntries keyJudge valueJudge s c 0 .nothing input
      some (g.finish (.object s.ident))

end Record

namespace Dictionary

/-- Waits for the entries from a position on, the key of each before its value. -/
def awaitEntries (keyJudge valueJudge : Judge) (s : Site) (c : Context) :
    Nat → Gathered (Value × Value) → List (Value × Value) → Option (Gathered (Value × Value))
  | _, g, [] => some g
  | n, g, (k, v) :: rest => do
    let keyVerdict ← keyJudge ((s.child n).child 0) k ((c.childIndex n).atKey "key")
    let valueVerdict ← valueJudge ((s.child n).child 1) v ((c.childIndex n).atKey "value")
    awaitEntries keyJudge valueJudge s c (n + 1) (g.collectPair keyVerdict valueVerdict) rest

/-- Waits for a map entry by entry. -/
def await (keyJudge valueJudge : Judge) (limits : Limits) : Judge := fun s v c =>
  match v with
  | .map _ entries =>
    match Guard.checkDepth c.depth limits with
    | .error r => some (Verdict.reject (r.issue c))
    | .ok () => do
      let g ← awaitEntries keyJudge valueJudge s c 0 .nothing entries
      some (g.finish (.map s.ident))
  | v => some (Verdict.reject (c.typeMismatch .notMap "map" v))

end Dictionary

/-! ## Unions and intersections -/

namespace Union

/-- Waits for one option after the other until one accepts. -/
def awaitFirst (s : Site) (v : Value) (c : Context) (count : Nat) :
    Nat → List Judge → Option Verdict
  | _, [] => some (Verdict.reject (noMatch c count))
  | n, judge :: rest => do
    match ← judge (s.child n) v c with
    | .ok output => some (.ok output)
    | .error _ => awaitFirst s v c count (n + 1) rest

/-- Waits for the first option that accepts. -/
def await (options : List Judge) : Judge := fun s v c =>
  awaitFirst s v c options.length 0 options

end Union

namespace Intersection

/-- Waits for the branches from a position on, behind the verdicts that are there already. -/
def awaitBranches (s : Site) (v : Value) (c : Context) :
    Nat → List Verdict → List Judge → Option (List Verdict)
  | _, verdicts, [] => some verdicts
  | n, verdicts, judge :: rest => do
    let verdict ← judge (s.child n) v c
    awaitBranches s v c (n + 1) (verdicts ++ [verdict]) rest

/-- Waits for all branches. -/
def await (branches : List Judge) : Judge := fun s v c =>
  (awaitBranches s v c 0 [] branches).map (combine s c)

end Intersection

/-! ## Modifiers -/

/-- Waits around a judge. Deferred code is called where the same code would be called at once. -/
def Modifier.await (m : Modifier) (inner : Judge) : Judge :=
  match m with
  | optional => fun s v c => if v.isUndefined then some (.ok .undefined) else inner s v c
  | nullable => fun s v c => if v.isNull then some (.ok .null) else inner s v c
  | nullish => fun s v c => if v.isUndefined || v.isNull then some (.ok v) else inner s v c
  | default standard => fun s v c =>
    if v.isUndefined then inner s standard c else inner s v c
  | fallback replacement => fun s v c => do
    match ← inner s v c with
    | .ok output => some (.ok output)
    | .error _ => some (.ok replacement)
  | message text => fun s v c => do
    match ← inner s v c with
    | .ok output => some (.ok output)
    | .error e => some (.error (e.overrideMessage c.path text))
  | refine check text =>
    inner.checkOutput fun c output => Verdict.ofCheck (check output) text c output
  | superRefine refiner => inner.checkOutput fun c output => Verdict.ofRefiner refiner c output
  | transform mapper => inner.mapOutput mapper
  | preprocess mapper => inner.mapInput mapper
  | refineAsync check text =>
    inner.checkOutput fun c output => Verdict.ofCheck (check output).await text c output
  | transformAsync mapper => inner.mapOutput fun s v => (mapper s v).await
  | preprocessAsync mapper => inner.mapInput fun s v => (mapper s v).await

end ValueSchema
