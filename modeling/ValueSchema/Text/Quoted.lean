/-
Quoted text for messages, and string literals of JSON.

A quoted text shows every character that could mislead a reader by an escape: quotation marks
and backslashes, control characters, separators, unassigned characters, and marks that would
join the character before them. JSON text escapes only what its grammar demands.
-/
import ValueSchema.Text.Letter

set_option autoImplicit false

namespace ValueSchema.Text

/-- A number in lower-case hexadecimal digits. -/
def hexText (n : Nat) : String := String.ofList (Nat.toDigits 16 n)

/-- One character inside quotation marks. -/
def quoteChar (c : Char) : String :=
  match c with
  | '\x00' => "\\0"
  | '\t' => "\\t"
  | '\r' => "\\r"
  | '\n' => "\\n"
  | '"' => "\\\""
  | '\\' => "\\\\"
  | c =>
    if isPrintable c && !isGraphemeExtend c then String.singleton c
    else "\\u\x7b" ++ hexText c.toNat ++ "\x7d"

/-- A text between quotation marks, with escapes. -/
def quote (s : String) : String :=
  "\"" ++ String.join (s.toList.map quoteChar) ++ "\""

/-- One character inside a JSON string. -/
def jsonChar (c : Char) : String :=
  match c with
  | '"' => "\\\""
  | '\\' => "\\\\"
  | '\n' => "\\n"
  | '\r' => "\\r"
  | '\t' => "\\t"
  | '\x08' => "\\b"
  | '\x0c' => "\\f"
  | c =>
    if c.toNat < 32 then
      "\\u00" ++ (if c.toNat < 16 then "0" else "") ++ hexText c.toNat
    else String.singleton c

/-- A JSON string literal. -/
def jsonString (s : String) : String :=
  "\"" ++ String.join (s.toList.map jsonChar) ++ "\""

end ValueSchema.Text
