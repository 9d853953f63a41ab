/-
Issues, and nonempty lists of them.

A rejection is a nonempty ordered list of flat issues. Containers do not nest the issues of
their parts: every issue carries the full path of the value it is about.
-/
import ValueSchema.Issue.Code
import ValueSchema.Value.Text

set_option autoImplicit false

namespace ValueSchema

/-- One thing wrong with one value. -/
structure Issue where
  path : String
  code : Code
  message : String
  received : Option Value
  expected : Option String
  details : List (String × Value)
deriving Inhabited

namespace Issue

/-- An issue at the root with nothing but a code and a message. -/
def new (code : Code) (message : String) : Issue := ⟨"", code, message, none, none, []⟩

def atPath (i : Issue) (path : String) : Issue :=
  ⟨path, i.code, i.message, i.received, i.expected, i.details⟩

def withMessage (i : Issue) (message : String) : Issue :=
  ⟨i.path, i.code, message, i.received, i.expected, i.details⟩

def withReceived (i : Issue) (v : Value) : Issue :=
  ⟨i.path, i.code, i.message, some v, i.expected, i.details⟩

def withExpected (i : Issue) (text : String) : Issue :=
  ⟨i.path, i.code, i.message, i.received, some text, i.details⟩

/-- Adds a detail after those present. -/
def withDetail (i : Issue) (key : String) (v : Value) : Issue :=
  ⟨i.path, i.code, i.message, i.received, i.expected, i.details ++ [(key, v)]⟩

/-- The first detail under a key. -/
def detail? (i : Issue) (key : String) : Option Value := Keyed.find? key i.details

/-- One line: the path in brackets unless it is the root, the code, the message. -/
def display (i : Issue) : String :=
  let line := i.code.name ++ ": " ++ i.message
  if i.path = "" then line else "[" ++ i.path ++ "] " ++ line

/-- JSON of an issue; absent parts are left out. -/
def json (i : Issue) : String :=
  let member (key : String) (text : String) : String := Text.jsonString key ++ ":" ++ text
  let members :=
    [member "path" (Text.jsonString i.path), member "code" (Text.jsonString i.code.name),
      member "message" (Text.jsonString i.message)]
    ++ (i.received.map fun v => member "received" v.json).toList
    ++ (i.expected.map fun t => member "expected" (Text.jsonString t)).toList
    ++ (if i.details.isEmpty then []
        else
          [member "meta" ("\x7b" ++ Value.commaSeparated (Value.jsonFields i.details) ++ "\x7d")])
  "\x7b" ++ Value.commaSeparated members ++ "\x7d"

end Issue

/-- A nonempty list of issues. -/
structure Issues where
  first : Issue
  rest : List Issue
deriving Inhabited

namespace Issues

def single (i : Issue) : Issues := ⟨i, []⟩

def toList (e : Issues) : List Issue := e.first :: e.rest

/-- The issues of a list that is not empty. -/
def ofList? : List Issue → Option Issues
  | [] => none
  | i :: rest => some ⟨i, rest⟩

def size (e : Issues) : Nat := e.rest.length + 1

def codes (e : Issues) : List Code := e.toList.map Issue.code

/-- The issues about the value at a path. -/
def atPath (e : Issues) (path : String) : List Issue := e.toList.filter fun i => i.path == path

def contains (e : Issues) (code : Code) : Bool := e.toList.any fun i => i.code == code

def map (f : Issue → Issue) (e : Issues) : Issues := ⟨f e.first, e.rest.map f⟩

/-- Gives the issues at one path a new message and leaves the others alone. -/
def overrideMessage (path message : String) (e : Issues) : Issues :=
  e.map fun i => if i.path = path then i.withMessage message else i

/-- A heading with the count, then one numbered line per issue. -/
def display (e : Issues) : String :=
  let line (n : Nat) (i : Issue) : String := "\n  " ++ Nat.repr (n + 1) ++ ". " ++ i.display
  "Validation failed with " ++ Nat.repr e.size ++ " error(s):"
    ++ String.join (e.toList.mapIdx line)

/-- JSON of a list of issues. -/
def json (e : Issues) : String :=
  "[" ++ Value.commaSeparated (e.toList.map Issue.json) ++ "]"

@[simp] theorem toList_single (i : Issue) : (single i).toList = [i] := rfl

theorem toList_map (f : Issue → Issue) (e : Issues) : (e.map f).toList = e.toList.map f := rfl

theorem toList_of_ofList? {l : List Issue} {e : Issues} (h : ofList? l = some e) :
    e.toList = l := by
  cases l with
  | nil => simp [ofList?] at h
  | cons i rest =>
    simp only [ofList?, Option.some.injEq] at h
    subst h; rfl

end Issues

/-- What a schema makes of a value: an output or issues. -/
abbrev Verdict := Except Issues Value

/-- An output, unless issues were collected. -/
def Verdict.finish (issues : List Issue) (output : Value) : Verdict :=
  match Issues.ofList? issues with
  | some e => .error e
  | none => .ok output

/-- A rejection with one issue. -/
def Verdict.reject (i : Issue) : Verdict := .error (Issues.single i)

end ValueSchema
