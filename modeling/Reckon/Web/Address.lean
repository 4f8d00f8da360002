import Reckon.Text.Quoted

/-!
The address of a request and the path that it asks for. An address may be whole,
with a scheme and a host, or give a path alone; a query and a fragment play no
part. Dots are followed in the path as it is written, before its escapes are
read.
-/

namespace Reckon.Web

inductive AddressError where
  | tooLong
  | control (character : Char) (position : Nat)
  | doubleSlash
  | leadingColon
  deriving DecidableEq

def AddressError.message : AddressError → String
  | .tooLong => "URL too long"
  | .control character position =>
      "Invalid non-printable ASCII character in URL, " ++ Text.quote character.toString ++
        " at position " ++ toString position ++ "."
  | .doubleSlash => "Relative URLs cannot have a path starting with '//'"
  | .leadingColon => "Relative URLs cannot have a path starting with ':'"

structure Address where
  scheme : List Char
  authority : List Char
  path : List Char
  deriving DecidableEq

namespace Address

def limit : Nat := 65536

def isControl (c : Char) : Bool := c.toNat < 0x20 || c.toNat = 0x7f

def isSchemeChar (c : Char) : Bool := c.isAlphanum || c = '+' || c = '.' || c = '-'

def endsAuthority (c : Char) : Bool := c = '/' || c = '?' || c = '#'

def endsPath (c : Char) : Bool := c = '?' || c = '#'

/-- A scheme starts with a letter and ends at a colon; a colon alone is an empty scheme. -/
def splitScheme (text : List Char) : List Char × List Char :=
  let scheme := text.takeWhile isSchemeChar
  match text.dropWhile isSchemeChar with
  | ':' :: rest => if scheme.head?.all Char.isAlpha then (scheme, rest) else ([], text)
  | _ => ([], text)

/-- An authority stands between two slashes and the path. -/
def splitAuthority : List Char → List Char × List Char
  | '/' :: '/' :: rest =>
      (rest.takeWhile fun c => !endsAuthority c, rest.dropWhile fun c => !endsAuthority c)
  | text => ([], text)

def ofText (text : List Char) : Address :=
  let (scheme, rest) := splitScheme text
  let (authority, rest) := splitAuthority rest
  ⟨scheme, authority, rest.takeWhile fun c => !endsPath c⟩

/-- The authority without a user before an at sign and a number after a colon. -/
def host (address : Address) : List Char :=
  (address.authority.reverse.takeWhile (· ≠ '@')).reverse.takeWhile (· ≠ ':')

/-- Whether the address names the place where its path is looked up. -/
def isWhole (address : Address) : Bool :=
  address.scheme ≠ [] && address.host ≠ []

def segments : List Char → List (List Char)
  | [] => [[]]
  | c :: rest =>
      if c = '/' then [] :: segments rest
      else match segments rest with
        | first :: more => (c :: first) :: more
        | [] => [[c]]

/-- Adds a segment to those kept so far, the last one first. A dot adds none, and two
dots take the last one away, save the empty one in front of the first slash. -/
def keepSegment (kept : List (List Char)) (segment : List Char) : List (List Char) :=
  if segment = ['.'] then kept
  else if segment = ['.', '.'] then if kept = [[]] then kept else kept.tail
  else segment :: kept

def followDots (path : List Char) : List Char :=
  let kept := (segments path).foldl keepSegment []
  List.intercalate ['/'] kept.reverse

/-- The path from the root. A path alone is taken from there, however it starts. -/
def rooted (address : Address) : List Char :=
  let own := if address.scheme = [] ∧ address.authority = [] then address.path
    else followDots address.path
  if address.isWhole then own
  else followDots ('/' :: own.dropWhile (· = '/'))

def hexValue? (c : Char) : Option Nat :=
  if c.isDigit then some (c.toNat - 48)
  else if 'a' ≤ c ∧ c ≤ 'f' then some (c.toNat - 87)
  else if 'A' ≤ c ∧ c ≤ 'F' then some (c.toNat - 55)
  else none

def escape? (high low : Char) : Option Char := do
  return Char.ofNat (16 * (← hexValue? high) + (← hexValue? low))

/-- Reads each percent sign before two hexadecimal digits as the character of that
number. Every path that is served is ASCII, so longer encodings are not joined. -/
def unescape : List Char → List Char
  | '%' :: tail@(high :: low :: rest) =>
      match escape? high low with
      | some c => c :: unescape rest
      | none => '%' :: unescape tail
  | c :: rest => c :: unescape rest
  | [] => []

def check (text : List Char) : Except AddressError Address :=
  if limit < text.length then .error .tooLong
  else match text.find? isControl with
    | some c => .error (.control c (text.idxOf c))
    | none =>
        let address := ofText text
        if address.scheme = [] ∧ address.authority = [] then
          match address.path with
          | '/' :: '/' :: _ => .error .doubleSlash
          | ':' :: _ => .error .leadingColon
          | _ => .ok address
        else .ok address

/-- The path that an address asks for. The sender reads its escapes and so does the
receiver, so an escaped escape is read too. -/
def target (text : List Char) : Except AddressError (List Char) :=
  (check text).map fun address => unescape (unescape address.rooted)

end Address

end Reckon.Web
