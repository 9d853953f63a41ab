/-
Hosts of URLs.

A host is an address in brackets, an address of decimal, octal or hexadecimal numbers, or a domain
name; a name whose last label is a number has to be an address. Where nothing is known about the
scheme a host is any text without separators.
-/
import ValueSchema.Format.Domain
import ValueSchema.Text.CodeSet

set_option autoImplicit false

namespace ValueSchema.Format

open ValueSchema.Text

/-! ## Addresses of four numbers -/

/-- The value of digits to a base, if all of them are digits to it. -/
def valueInBase? (base : Nat) (s : List Char) : Option Nat :=
  s.foldlM (fun n c => (hexDigit? c).bind fun d => if d < base then some (n * base + d) else none) 0

/-- A number in an address: hexadecimal after `0x`, octal after a zero, decimal otherwise. -/
def addressNumber? : List Char → Option Nat
  | [] => none
  | '0' :: 'x' :: s => valueInBase? 16 s
  | '0' :: 'X' :: s => valueInBase? 16 s
  | '0' :: c :: s => valueInBase? 8 (c :: s)
  | s => valueInBase? 10 s

/-- The parts between points, without the empty part after a last point. -/
def addressParts (s : List Char) : List (List Char) :=
  let parts := splitBy '.' s
  if 1 < parts.length && parts.getLast? == some [] then parts.dropLast else parts

/-- The last part of a name is a number, so the name has to be an address. -/
def endsInNumber (s : List Char) : Bool :=
  match (addressParts s).getLast? with
  | some part => (!part.isEmpty && part.all Char.isDigit) || (addressNumber? part).isSome
  | none => false

/-- At most four numbers; all but the last fill one byte each and the last one the rest. -/
def isAddress (s : List Char) : Bool :=
  match (addressParts s).mapM addressNumber? with
  | none => false
  | some numbers =>
    numbers.length ≤ 4 && numbers.dropLast.all (· ≤ 255)
      && numbers.getLast?.any (· < Nat.pow 256 (5 - numbers.length))

/-! ## Addresses in brackets -/

/-- One to four hexadecimal digits. -/
def isPiece (s : List Char) : Bool :=
  !s.isEmpty && s.length ≤ 4 && s.all fun c => (hexDigit? c).isSome

/-- A decimal number up to 255 without leading zeros. -/
def isByte (s : List Char) : Bool :=
  s.all Char.isDigit && (s.length = 1 || s.head? != some '0')
    && !s.isEmpty && s.length ≤ 3 && (valueInBase? 10 s).any (· ≤ 255)

/-- Four bytes between points. -/
def isDotted (s : List Char) : Bool :=
  let parts := splitBy '.' s
  parts.length = 4 && parts.all isByte

/-- How many pieces a run between colons stands for; its end may be four bytes, which stand for
two. -/
def pieceCount? (dottedEnd : Bool) (s : List Char) : Option Nat :=
  let parts := splitBy ':' s
  let firsts := parts.dropLast
  if firsts.all isPiece then
    match parts.getLast? with
    | some last =>
      if isPiece last then some (firsts.length + 1)
      else if dottedEnd && isDotted last then some (firsts.length + 2)
      else none
    | none => none
  else none

/-- The texts before and after the first double colon. -/
def splitAtGap (before : List Char) : List Char → Option (List Char × List Char)
  | ':' :: ':' :: rest => some (before.reverse, rest)
  | c :: rest => splitAtGap (c :: before) rest
  | [] => none

/-- Eight pieces, or fewer with one gap. -/
def isLongAddress (s : List Char) : Bool :=
  match splitAtGap [] s with
  | none => pieceCount? true s == some 8
  | some (left, right) =>
    let count (dottedEnd : Bool) (run : List Char) : Option Nat :=
      if run.isEmpty then some 0 else pieceCount? dottedEnd run
    match count false left, count true right with
    | some a, some b => a + b ≤ 7
    | _, _ => false

/-- A host that starts with a bracket, without the rules of names. -/
def isBracketed (s : List Char) : Bool :=
  s.getLast? == some ']' && isLongAddress (s.drop 1).dropLast

/-! ## Hosts -/

/-- The bytes of a text in which a percent sign and two digits stand for a byte. -/
def percentDecode : List UInt8 → List UInt8
  | 0x25 :: a :: b :: rest =>
    match hexDigit? (Char.ofNat a.toNat), hexDigit? (Char.ofNat b.toNat) with
    | some x, some y => UInt8.ofNat (x * 16 + y) :: percentDecode rest
    | _, _ => 0x25 :: percentDecode (a :: b :: rest)
  | c :: rest => c :: percentDecode rest
  | [] => []

/-- The text behind percent signs, if its bytes are one. -/
def percentDecoded? (s : List Char) : Option (List Char) :=
  let bytes := percentDecode (String.ofList s).toUTF8.toList
  (String.fromUTF8? ⟨bytes.toArray⟩).map String.toList

/-- The host of a URL whose scheme has hosts of a known kind. -/
def isKnownHost (s : List Char) : Bool :=
  if s.head? == some '[' then isBracketed s
  else
    match (percentDecoded? s).bind domain? with
    | some domain => !domain.isEmpty && (!endsInNumber domain || isAddress domain)
    | none => false

def isForbiddenInHost (c : Char) : Bool :=
  "\x00\t\n\r #/:<>?@[\\]^|".toList.contains c

/-- The host of a URL of another scheme. -/
def isOpaqueHost (s : List Char) : Bool :=
  if s.head? == some '[' then isBracketed s else !s.any isForbiddenInHost

end ValueSchema.Format
