/-
Absolute URLs.

A scheme, and what its kind asks for: schemes of the web have a host, whatever slashes stand before
it; a file may have one; any other scheme has one only after two slashes. What follows a host, as
well as paths, queries and fragments, may be any text. Blanks around a URL and line breaks inside
it do not count.
-/
import ValueSchema.Format.Host

set_option autoImplicit false

namespace ValueSchema.Format

/-! ## Pieces of a URL -/

def isControlOrSpace (c : Char) : Bool := c.toNat ≤ 32

/-- A text without blanks and controls around it and without tabs and line breaks inside. -/
def stripUrl (s : List Char) : List Char :=
  let front := s.dropWhile isControlOrSpace
  let trimmed := (front.reverse.dropWhile isControlOrSpace).reverse
  trimmed.filter fun c => !(c = '\t' || c = '\n' || c = '\r')

def isSchemeChar (c : Char) : Bool := c.isAlphanum || c = '+' || c = '-' || c = '.'

/-- The scheme in lower case, and what follows its colon. -/
def scheme? (s : List Char) : Option (String × List Char) :=
  match s with
  | [] => none
  | c :: _ =>
    match s.dropWhile isSchemeChar with
    | ':' :: rest =>
      if c.isAlpha then some (String.ofList ((s.takeWhile isSchemeChar).map Char.toLower), rest)
      else none
    | _ => none

/-- The schemes whose URLs have a host. -/
def webSchemes : List String := ["http", "https", "ws", "wss", "ftp"]

/-- The characters that end a host; a backslash is a slash where the scheme is known. -/
def endsAuthority (known : Bool) (c : Char) : Bool :=
  c = '/' || c = '?' || c = '#' || (known && c = '\\')

/-- The text up to the first colon outside brackets, and the rest. -/
def splitHost (inBrackets : Bool) : List Char → List Char × List Char
  | [] => ([], [])
  | c :: rest =>
    if c = ':' && !inBrackets then ([], c :: rest)
    else
      let now := if c = '[' then true else if c = ']' then false else inBrackets
      let (host, tail) := splitHost now rest
      (c :: host, tail)

/-- The number behind a host and a colon fits sixteen bits. A backslash ends it even where it ends
no host. -/
def isPortNumber (s : List Char) : Bool :=
  let digits := s.takeWhile Char.isDigit
  (valueInBase? 10 digits).any (· < 65536)
    && (s.dropWhile Char.isDigit).head?.all (· = '\\')

/-- What stands before the last at sign, and what stands after it. -/
def splitUser (s : List Char) : Option (List Char) × List Char :=
  if s.contains '@' then
    let reversed := s.reverse
    (some ((reversed.dropWhile (· != '@')).drop 1).reverse, (reversed.takeWhile (· != '@')).reverse)
  else (none, s)

/-! ## URLs -/

/-- A host and perhaps a colon and a number; `named` says that a user stands before them. -/
def isEndpoint (known named : Bool) (s : List Char) : Bool :=
  let (host, tail) := splitHost false s
  (if host.isEmpty then !known && !named && tail.isEmpty
    else if known then isKnownHost host else isOpaqueHost host)
    && isPortNumber (tail.drop 1)

/-- What follows the slashes before a host. -/
def isAuthority (known : Bool) (s : List Char) : Bool :=
  let authority := s.takeWhile fun c => !endsAuthority known c
  let after := s.dropWhile fun c => !endsAuthority known c
  match splitUser authority with
  | (none, rest) => isEndpoint known false rest
  | (some user, rest) =>
    !(user.isEmpty && rest.isEmpty && !after.isEmpty)
      && isEndpoint known (!(user.isEmpty || user = [':'])) rest

/-- A drive letter, which is the start of a path and no host. -/
def isDriveLetter (s : List Char) : Bool :=
  match s with
  | [c, mark] => c.isAlpha && (mark = ':' || mark = '|')
  | _ => false

/-- What follows the scheme of a file: after two slashes a host, unless there is none. -/
def isFileRest (s : List Char) : Bool :=
  match s with
  | a :: b :: rest =>
    if (a = '/' || a = '\\') && (b = '/' || b = '\\') then
      let host := rest.takeWhile fun c => !endsAuthority true c
      host.isEmpty || isDriveLetter host || isKnownHost host
    else true
  | _ => true

/-- The text is an absolute URL. -/
def isUrl (s : String) : Bool :=
  match scheme? (stripUrl s.toList) with
  | none => false
  | some (scheme, rest) =>
    if scheme = "file" then isFileRest rest
    else if webSchemes.contains scheme then
      isAuthority true (rest.dropWhile fun c => c = '/' || c = '\\')
    else
      match rest with
      | '/' :: '/' :: authority => isAuthority false authority
      | _ => true

end ValueSchema.Format
