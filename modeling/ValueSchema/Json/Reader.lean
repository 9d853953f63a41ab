/-
Reading JSON documents.

A reader takes what it reads from the front of the text and answers with the rest. Every step
takes at least one character or opens what one character has announced, so twice the length of the
text bounds the depth of the reading.
-/
import ValueSchema.Json.Basic
import ValueSchema.Decimal.Reading
import ValueSchema.Text.CodeSet

set_option autoImplicit false

namespace ValueSchema.Json

/-! ## Pieces -/

def isSpace (c : Char) : Bool := c = ' ' || c = '\n' || c = '\t' || c = '\r'

def skipSpaces (s : List Char) : List Char := s.dropWhile isSpace

/-- The code of four hexadecimal digits. -/
def code? (s : List Char) : Option Nat :=
  if s.length = 4 && s.all fun c => (Text.hexDigit? c).isSome then some (Text.hexValue s)
  else none

def isHighSurrogate (n : Nat) : Bool := 0xD800 ≤ n && n < 0xDC00

def isLowSurrogate (n : Nat) : Bool := 0xDC00 ≤ n && n < 0xE000

/-- The character of an escape by code; a surrogate stands only in a pair. -/
def escapedCode? (s : List Char) : Option (Char × List Char) :=
  match code? (s.take 4) with
  | none => none
  | some n =>
    if isLowSurrogate n then none
    else if isHighSurrogate n then
      match s.drop 4 with
      | '\\' :: 'u' :: r =>
        match code? (r.take 4) with
        | some m =>
          if isLowSurrogate m then
            some (Char.ofNat (0x10000 + (n - 0xD800) * 1024 + (m - 0xDC00)), r.drop 4)
          else none
        | none => none
      | _ => none
    else some (Char.ofNat n, s.drop 4)

/-- The character of an escape. -/
def escaped? : List Char → Option (Char × List Char)
  | 'n' :: r => some ('\n', r)
  | 't' :: r => some ('\t', r)
  | 'r' :: r => some ('\r', r)
  | 'b' :: r => some ('\x08', r)
  | 'f' :: r => some ('\x0c', r)
  | '"' :: r => some ('"', r)
  | '\\' :: r => some ('\\', r)
  | '/' :: r => some ('/', r)
  | 'u' :: r => escapedCode? r
  | _ => none

/-- The rest of a string after its opening mark, given the characters read so far, last first. -/
def stringFrom (fuel : Nat) (read : List Char) (s : List Char) : Option (String × List Char) :=
  match fuel with
  | 0 => none
  | fuel + 1 =>
    match s with
    | '"' :: r => some (String.ofList read.reverse, r)
    | '\\' :: r =>
      match escaped? r with
      | some (c, r) => stringFrom fuel (c :: read) r
      | none => none
    | c :: r => if c.toNat < 32 then none else stringFrom fuel (c :: read) r
    | [] => none

def isNumberChar (c : Char) : Bool :=
  c.isDigit || c = '-' || c = '+' || c = '.' || c = 'e' || c = 'E'

/-- The text is a number: digits, with a sign before and a fraction or an exponent after. -/
def isNumber : List Char → Bool
  | '-' :: s => s.head?.any Char.isDigit && (Decimal.numeral? s).isSome
  | s => s.head?.any Char.isDigit && (Decimal.numeral? s).isSome

/-- A number. -/
def number? (s : List Char) : Option (Json × List Char) :=
  let text := s.takeWhile isNumberChar
  if isNumber text then some (number (String.ofList text), s.dropWhile isNumberChar) else none

/-! ## Documents -/

mutual

/-- One document. -/
def documentFrom (fuel : Nat) (s : List Char) : Option (Json × List Char) :=
  match fuel with
  | 0 => none
  | fuel + 1 =>
    match skipSpaces s with
    | 'n' :: 'u' :: 'l' :: 'l' :: r => some (null, r)
    | 't' :: 'r' :: 'u' :: 'e' :: r => some (bool true, r)
    | 'f' :: 'a' :: 'l' :: 's' :: 'e' :: r => some (bool false, r)
    | '"' :: r => (stringFrom (r.length + 1) [] r).map fun (t, r) => (string t, r)
    | '[' :: r =>
      match skipSpaces r with
      | ']' :: r => some (array [], r)
      | r => (itemsFrom fuel [] r).map fun (items, r) => (array items, r)
    | '\x7b' :: r =>
      match skipSpaces r with
      | '\x7d' :: r => some (object [], r)
      | r => (membersFrom fuel [] r).map fun (members, r) => (object (Keyed.ofList members), r)
    | r => number? r

/-- The elements of an array up to its end, given those read so far, last first. -/
def itemsFrom (fuel : Nat) (read : List Json) (s : List Char) :
    Option (List Json × List Char) :=
  match fuel with
  | 0 => none
  | fuel + 1 =>
    match documentFrom fuel s with
    | none => none
    | some (j, r) =>
      match skipSpaces r with
      | ',' :: r => itemsFrom fuel (j :: read) r
      | ']' :: r => some ((j :: read).reverse, r)
      | _ => none

/-- The members of an object up to its end, given those read so far, last first. -/
def membersFrom (fuel : Nat) (read : List (String × Json)) (s : List Char) :
    Option (List (String × Json) × List Char) :=
  match fuel with
  | 0 => none
  | fuel + 1 =>
    match skipSpaces s with
    | '"' :: r =>
      match stringFrom (r.length + 1) [] r with
      | none => none
      | some (key, r) =>
        match skipSpaces r with
        | ':' :: r =>
          match documentFrom fuel r with
          | none => none
          | some (j, r) =>
            match skipSpaces r with
            | ',' :: r => membersFrom fuel ((key, j) :: read) r
            | '\x7d' :: r => some (((key, j) :: read).reverse, r)
            | _ => none
        | _ => none
    | _ => none

end

/-- The document that a text is. -/
def read? (text : String) : Option Json :=
  let s := text.toList
  match documentFrom (2 * s.length + 2) s with
  | some (j, rest) => if (skipSpaces rest).isEmpty then some j else none
  | none => none

end ValueSchema.Json
