/-
Where in the input a schema is judging.

A context has the path of the value, names joined by points, and the nesting depth. The empty
path is the root, so joining a name to it gives the bare name.
-/
import ValueSchema.Issue.Basic

set_option autoImplicit false

namespace ValueSchema

/-- A path and a nesting depth. -/
structure Context where
  path : String
  depth : Nat
deriving DecidableEq, Repr, Inhabited

namespace Context

def root : Context := ⟨"", 0⟩

/-- The top level under a path. -/
def atPath (path : String) : Context := ⟨path, 0⟩

/-- The root path at a depth. -/
def withDepth (depth : Nat) : Context := ⟨"", depth⟩

/-- One more segment on a path. -/
def join (path segment : String) : String :=
  if path = "" then segment else path ++ "." ++ segment

/-- A field of the value, one level deeper. -/
def childKey (c : Context) (key : String) : Context := ⟨join c.path key, c.depth + 1⟩

/-- An element of the value, one level deeper. -/
def childIndex (c : Context) (index : Nat) : Context := ⟨join c.path (Nat.repr index), c.depth + 1⟩

/-- A part of the value on the same level. -/
def atKey (c : Context) (key : String) : Context := ⟨join c.path key, c.depth⟩

/-- An issue here. -/
def issue (c : Context) (code : Code) (message : String) : Issue :=
  (Issue.new code message).atPath c.path

/-- The issue that a value is of another type than the one expected. -/
def typeMismatch (c : Context) (code : Code) (expected : String) (received : Value) : Issue :=
  ((c.issue code ("Expected " ++ expected ++ ", received " ++ received.typeName)).withExpected
    expected).withReceived received

end Context

end ValueSchema
