import LeaseRoster.Datum
import LeaseRoster.Fault
import LeaseRoster.Network.Address
import LeaseRoster.Text.Casing
import LeaseRoster.Text.CodeRanges

/-!
# Absolute addresses of pages

A link is kept only if it names a scheme and a host.  The scheme ends at the
first colon; the authority stands between two slashes and the next slash,
question mark or hash; the host is what the authority has behind its last at
sign, in brackets or up to the first colon.
-/

namespace LeaseRoster

/-- A link taken apart as far as its authority. -/
structure Uri where
  scheme : List Char
  authority : List Char
deriving DecidableEq

namespace Uri

/-- Characters that compatibility composition turns into text with a slash, a
question mark, a hash, an at sign or a colon. -/
def delimiterForms : Text.CodeRanges :=
  [(0x2047, 0x2049), (0x2100, 0x2101), (0x2105, 0x2106), (0x2a74, 0x2a74),
   (0xfe13, 0xfe13), (0xfe16, 0xfe16), (0xfe55, 0xfe56), (0xfe5f, 0xfe5f),
   (0xfe6b, 0xfe6b), (0xff03, 0xff03), (0xff0f, 0xff0f), (0xff1a, 0xff1a),
   (0xff1f, 0xff20)]

def isSchemePart (character : Char) : Bool :=
  Text.isAsciiLetter character || Text.isAsciiDigit character ||
    character == '+' || character == '-' || character == '.'

def isScheme (text : List Char) : Bool :=
  (text.head?.any Text.isAsciiLetter) && text.all isSchemePart

/-- The scheme of a text, in small letters, and what follows its colon; an empty
scheme and the whole text where there is none. -/
def splitScheme (text : List Char) : List Char × List Char :=
  let scheme := text.takeWhile (· != ':')
  match text.dropWhile (· != ':') with
  | _ :: rest =>
    if isScheme scheme then (scheme.map Char.toLower, rest) else ([], text)
  | [] => ([], text)

def endsAuthority (character : Char) : Bool :=
  character == '/' || character == '?' || character == '#'

/-- The authority behind two slashes, empty where they are missing. -/
def readAuthority : List Char → List Char
  | '/' :: '/' :: rest => rest.takeWhile fun character => !endsAuthority character
  | _ => []

/-- What an authority has behind its last at sign. -/
def afterUser (authority : List Char) : List Char :=
  (authority.reverse.takeWhile (· != '@')).reverse

/-- The host and port of an authority: what stands before a bracket, the text in
brackets or up to a colon, and what follows a closing bracket. -/
structure HostParts where
  before : List Char
  host : List Char
  after : List Char

/-- Takes the part of an authority behind its user apart. -/
def hostParts (text : List Char) : HostParts :=
  match text.dropWhile (· != '[') with
  | _ :: bracketed =>
    ⟨text.takeWhile (· != '['), bracketed.takeWhile (· != ']'),
      (bracketed.dropWhile (· != ']')).drop 1⟩
  | [] => ⟨[], text.takeWhile (· != ':'), []⟩

/-- Whether a host in brackets is an address of a later version: a letter, a version
in hexadecimal digits, a point and more. -/
def isFutureHost (host : List Char) : Bool :=
  match host with
  | 'v' :: rest =>
    let version := rest.takeWhile fun character => (Text.hexValue? character).isSome
    let others := rest.drop version.length
    !version.isEmpty && others.head? == some '.' && 1 < others.length
  | _ => false

def isBracketedHost (host : List Char) : Bool :=
  if host.head? == some 'v' then isFutureHost host
  else
    match IpAddress.read? host with
    | some (.v6 _ _) => true
    | _ => false

def bracketsInOrder (authority : List Char) : Bool :=
  if authority.contains '[' || authority.contains ']' then
    let parts := hostParts (afterUser authority)
    authority.contains '[' && authority.contains ']' && parts.before.isEmpty &&
      (parts.after.isEmpty || parts.after.head? == some ':') &&
      isBracketedHost parts.host
  else true

/-- Whether no character of an authority turns into a delimiter. -/
def hasPlainDelimiters (authority : List Char) : Bool :=
  !authority.any delimiterForms.contains

/-- Whether a character is a control character or a space, which are passed over in
front of a link. -/
def isLeadingControl (character : Char) : Bool := character.toNat ≤ 0x20

/-- A link taken apart, if its authority is in order. -/
def split? (text : List Char) : Option Uri :=
  let (scheme, rest) := splitScheme (text.dropWhile isLeadingControl)
  let authority := readAuthority rest
  if bracketsInOrder authority && hasPlainDelimiters authority then
    some ⟨scheme, authority⟩
  else none

/-- The host of a link, in small letters up to a zone. -/
def host (uri : Uri) : List Char :=
  let host := (hostParts (afterUser uri.authority)).host
  Text.lower (host.takeWhile (· != '%')) ++ host.dropWhile (· != '%')

/-- Whether a text is a link with a scheme and a host, and without blanks. -/
def isAbsolute (text : List Char) : Bool :=
  !text.isEmpty && !text.any Text.isBlank &&
    match split? text with
    | some uri => !uri.scheme.isEmpty && !uri.host.isEmpty
    | none => false

/-- Whether one of some values is a blank text.  The values up to it must be texts. -/
def anyBlank : List Datum → Except Fault Bool
  | [] => .ok false
  | .text value :: rest =>
    if !value.isEmpty && value.toList.all Text.isBlank then .ok true else anyBlank rest
  | _ :: _ => .error .foreignValue

/-- Whether a value is such a link.  What counts as nothing is none, nor is a
collection with a blank in it; other values that are no text cannot be judged. -/
def judge (datum : Datum) : Except Fault Bool :=
  if !datum.isTruthy then .ok false
  else
    match datum with
    | .text value => .ok (isAbsolute value.toList)
    | .list items => collection items
    | .mapping entries => collection (entries.map Prod.fst)
    | _ => .error .wrongKind
where
  /-- Judges a collection with some parts. -/
  collection (parts : List Datum) : Except Fault Bool := do
    if ← anyBlank parts then return false
    throw .wrongKind

end Uri

end LeaseRoster
