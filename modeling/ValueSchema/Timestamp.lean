/-
Instants in time and their ISO 8601 text.

An instant counts nanoseconds since 1970 in universal time. Its text shows milliseconds and
ends in `Z`; years outside four digits carry a sign. The calendar is the Gregorian one,
extended backwards, and is reckoned in eras of 400 years that start in March, so that the leap
day is the last day of a year.
-/

set_option autoImplicit false

namespace ValueSchema

/-- Nanoseconds since the start of 1970, universal time. -/
structure Timestamp where
  nanoseconds : Int
deriving DecidableEq, Repr, Inhabited, Hashable

namespace Timestamp

def ofMilliseconds (ms : Int) (extra : Nat) : Timestamp := ⟨ms * 1000000 + extra⟩

/-- Whole milliseconds and the nanoseconds beyond them. -/
def toMilliseconds (t : Timestamp) : Int × Nat :=
  (t.nanoseconds.fdiv 1000000, (t.nanoseconds.fmod 1000000).toNat)

def lt (a b : Timestamp) : Bool := decide (a.nanoseconds < b.nanoseconds)

def le (a b : Timestamp) : Bool := decide (a.nanoseconds ≤ b.nanoseconds)

/-! ## Calendar -/

/-- A calendar date. -/
structure Civil where
  year : Int
  month : Nat
  day : Nat
deriving DecidableEq, Repr

/-- The date of a day counted from the start of 1970. -/
def Civil.ofDay (day : Int) : Civil :=
  let z := day + 719468
  let era := z.fdiv 146097
  let dayOfEra := (z.fmod 146097).toNat
  let yearOfEra :=
    (dayOfEra - dayOfEra / 1460 + dayOfEra / 36524 - dayOfEra / 146096) / 365
  let dayOfYear := dayOfEra - (365 * yearOfEra + yearOfEra / 4 - yearOfEra / 100)
  let monthFromMarch := (5 * dayOfYear + 2) / 153
  let month := if monthFromMarch < 10 then monthFromMarch + 3 else monthFromMarch - 9
  let year : Int := (yearOfEra : Int) + era * 400
  ⟨if month ≤ 2 then year + 1 else year, month, dayOfYear - (153 * monthFromMarch + 2) / 5 + 1⟩

def isLeapYear (year : Nat) : Bool :=
  year % 4 = 0 && (year % 100 ≠ 0 || year % 400 = 0)

def daysInMonth (year month : Nat) : Nat :=
  match month with
  | 2 => if isLeapYear year then 29 else 28
  | 4 => 30
  | 6 => 30
  | 9 => 30
  | 11 => 30
  | _ => 31

/-! ## Text -/

/-- A number with leading zeros up to a width. -/
def padded (width n : Nat) : String :=
  let digits := Nat.repr n
  String.ofList (List.replicate (width - digits.length) '0') ++ digits

def yearText (year : Int) : String :=
  if 0 ≤ year ∧ year ≤ 9999 then padded 4 year.toNat
  else (if year < 0 then "-" else "+") ++ padded 4 year.natAbs

/-- The text of an instant, to the millisecond. -/
def text (t : Timestamp) : String :=
  let ms := t.nanoseconds.fdiv 1000000
  let date := Civil.ofDay (ms.fdiv 86400000)
  let rest := (ms.fmod 86400000).toNat
  yearText date.year ++ "-" ++ padded 2 date.month ++ "-" ++ padded 2 date.day ++ "T"
    ++ padded 2 (rest / 3600000) ++ ":" ++ padded 2 (rest / 60000 % 60) ++ ":"
    ++ padded 2 (rest / 1000 % 60) ++ "." ++ padded 3 (rest % 1000) ++ "Z"

/-! ## The format of date-times

A date-time has a date with a four-digit year, a time to the second with an optional fraction,
and an offset from universal time of less than a day. The second may be sixty. -/

/-- Two ASCII digits in front of a text. -/
def twoDigits? : List Char → Option (Nat × List Char)
  | a :: b :: rest =>
    if a.isDigit && b.isDigit then some ((a.toNat - 48) * 10 + (b.toNat - 48), rest) else none
  | _ => none

/-- One given character in front of a text. -/
def skip? (c : Char) : List Char → Option (List Char)
  | d :: rest => if c = d then some rest else none
  | [] => none

/-- The fraction of a second: a point and at least one digit, or nothing. -/
def fraction? : List Char → Option (List Char)
  | '.' :: rest =>
    match rest with
    | d :: more => if d.isDigit then some (more.dropWhile Char.isDigit) else none
    | [] => none
  | s => some s

/-- The offset of a date-time, which ends the text: `Z`, or a sign, hours and minutes. -/
def isOffset : List Char → Bool
  | [] => false
  | sign :: rest =>
    if sign = 'Z' || sign = 'z' then rest.isEmpty
    else if sign = '+' || sign = '-' || sign = '−' then
      (do
        let (hours, rest) ← twoDigits? rest
        let rest ← skip? ':' rest
        let (minutes, rest) ← twoDigits? rest
        some (hours < 24 && minutes < 60 && rest.isEmpty)).getD false
    else false

/-- The text is a date-time with an offset. -/
def isDateTime (s : String) : Bool :=
  (do
    let (century, rest) ← twoDigits? s.toList
    let (yearOfCentury, rest) ← twoDigits? rest
    let (month, rest) ← twoDigits? (← skip? '-' rest)
    let (day, rest) ← twoDigits? (← skip? '-' rest)
    let rest ←
      match rest with
      | c :: r => if c = 'T' || c = 't' || c = ' ' then some r else none
      | [] => none
    let (hour, rest) ← twoDigits? rest
    let (minute, rest) ← twoDigits? (← skip? ':' rest)
    let (second, rest) ← twoDigits? (← skip? ':' rest)
    let rest ← fraction? rest
    let year := century * 100 + yearOfCentury
    some (1 ≤ month && month ≤ 12 && 1 ≤ day && day ≤ daysInMonth year month
      && hour < 24 && minute < 60 && second ≤ 60 && isOffset rest)).getD false

end Timestamp

end ValueSchema
