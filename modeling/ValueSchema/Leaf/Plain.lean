/-
Schemas that look at nothing but the type of a value.
-/
import ValueSchema.Context

set_option autoImplicit false

namespace ValueSchema

/-- A schema without settings. -/
inductive PlainSchema
  | boolean
  | symbol
  | null
  | undefined
  | any
  | unknown
  | never
  | void
deriving DecidableEq, Repr

namespace PlainSchema

def name : PlainSchema → String
  | boolean => "boolean"
  | symbol => "symbol"
  | null => "null"
  | undefined => "undefined"
  | any => "any"
  | unknown => "unknown"
  | never => "never"
  | void => "void"

/-- The code of a rejection. -/
def code : PlainSchema → Code
  | boolean => .notBoolean
  | symbol => .notSymbol
  | null => .notNull
  | undefined => .notUndefined
  | void => .notUndefined
  | any => .never
  | unknown => .never
  | never => .never

def accepts (p : PlainSchema) (v : Value) : Bool :=
  match p, v with
  | boolean, .bool _ => true
  | symbol, .symbol _ => true
  | null, .null => true
  | undefined, .undefined => true
  | void, .undefined => true
  | any, _ => true
  | unknown, _ => true
  | _, _ => false

def run (p : PlainSchema) (c : Context) (v : Value) : Verdict :=
  if p.accepts v then .ok v else Verdict.reject (c.typeMismatch p.code p.name v)

end PlainSchema

end ValueSchema
