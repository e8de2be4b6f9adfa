import LeaseRoster.Network.Octets
import LeaseRoster.Text.Blank
import LeaseRoster.Text.Hex

/-!
# Internet addresses

An address of version 4 has 32 bits; one of version 6 has 128 bits and may name
the scope in which it is valid.  All addresses are compared by sixteen bytes, in
which an address of version 4 stands at the end of a fixed block of version 6.
-/

namespace LeaseRoster

/-- The number of addresses of version 4. -/
abbrev addressCount4 : Nat := 4294967296

/-- The number of addresses of version 6. -/
abbrev addressCount6 : Nat := 340282366920938463463374607431768211456

/-- An internet address. -/
inductive IpAddress
  | v4 (bits : Fin addressCount4)
  | v6 (bits : Fin addressCount6) (scope : Option String)
deriving DecidableEq

namespace IpAddress

def version : IpAddress → Nat
  | .v4 _ => 4
  | .v6 _ _ => 6

def width : IpAddress → Nat
  | .v4 _ => 32
  | .v6 _ _ => 128

def bits : IpAddress → Nat
  | .v4 bits => bits
  | .v6 bits _ => bits

/-- The first twelve bytes of every address of version 4. -/
def mappedBlock : Octets := List.replicate 10 0 ++ [0xff, 0xff]

/-- The sixteen bytes by which addresses are compared. -/
def octets : IpAddress → Octets
  | .v4 bits => mappedBlock ++ Octets.ofNat 4 bits
  | .v6 bits _ => Octets.ofNat 16 bits

/-- The bytes by which texts that are no address are sorted: behind all addresses. -/
def unreadableKey : Octets := List.replicate 17 0xff

def sortKey : Option IpAddress → Octets
  | some address => address.octets
  | none => unreadableKey

/-! ## Reading -/

/-- The value of one of the four numbers of a dotted address: up to three digits,
the first of which is zero only in zero itself. -/
def readOctet? (text : List Char) : Option Nat :=
  if text.isEmpty || !text.all Text.isAsciiDigit || 3 < text.length then none
  else if text.head? == some '0' && text.length != 1 then none
  else
    let value :=
      Text.ofDigits 10 (text.map fun character => character.toNat - 0x30)
    if value ≤ 255 then some value else none

def readDotted? (text : List Char) : Option Nat := do
  let numbers ← (Text.pieces (· == '.') text).mapM readOctet?
  if numbers.length == 4 then some (Text.ofDigits 256 numbers) else none

/-- The value of a group of up to four hexadecimal digits. -/
def readGroup? (text : List Char) : Option Nat :=
  if text.isEmpty || 4 < text.length then none else Text.hexNumber? text

/-- The groups that stand on one side of a double colon: none where nothing stands
there. -/
def readSide? (parts : List (List Char)) : Option (List Nat) :=
  if parts == [[]] then some [] else parts.mapM readGroup?

/-- The eight groups of an address of which some may be left out at a double
colon. -/
def expand? : List (List Char) → Option (List Nat)
  | [] => none
  | first :: others =>
    let before := others.takeWhile fun part => !part.isEmpty
    match others.dropWhile fun part => !part.isEmpty with
    | [] => do
      let groups ← (first :: others).mapM readGroup?
      if groups.length == 8 then some groups else none
    | _ :: after => do
      if after.isEmpty then none
      let left ← readSide? (first :: before)
      let right ← readSide? after
      if left.length + right.length < 8 then
        some (left ++ List.replicate (8 - left.length - right.length) 0 ++ right)
      else none

/-- The parts of an address between colons, a dotted address at the end written as
two groups. -/
def groupParts? (text : List Char) : Option (List (List Char)) :=
  let parts := Text.pieces (· == ':') text
  if parts.length < 3 then none
  else
    let last := parts.getLast?.getD []
    if last.contains '.' then
      (readDotted? last).map fun bits =>
        parts.dropLast ++
          [Text.hexPadded 4 (bits / 0x10000), Text.hexPadded 4 (bits % 0x10000)]
    else some parts

/-- The bits of an address of version 6 without its scope. -/
def readGroups? (text : List Char) : Option Nat := do
  let parts ← groupParts? text
  let groups ← expand? parts
  some (Text.ofDigits 0x10000 groups)

/-- An address and the scope behind a percent sign, which is neither empty nor
holds another one. -/
def splitScope? (text : List Char) : Option (List Char × Option String) :=
  let address := text.takeWhile (· != '%')
  match text.dropWhile (· != '%') with
  | [] => some (address, none)
  | _ :: scope =>
    if scope.isEmpty || scope.contains '%' then none
    else some (address, some (String.ofList scope))

def ofBits4? (bits : Nat) : Option IpAddress :=
  if inRange : bits < addressCount4 then some (.v4 ⟨bits, inRange⟩) else none

def ofBits6? (bits : Nat) (scope : Option String) : Option IpAddress :=
  if inRange : bits < addressCount6 then some (.v6 ⟨bits, inRange⟩ scope) else none

def readSix? (text : List Char) : Option IpAddress := do
  if text.contains '/' then none
  let (address, scope) ← splitScope? text
  let bits ← readGroups? address
  ofBits6? bits scope

/-- The address that a text denotes, without any blanks around it. -/
def read? (text : List Char) : Option IpAddress :=
  match readDotted? text with
  | some bits => ofBits4? bits
  | none => readSix? text

/-- The address that a text denotes, blanks around it passed over. -/
def readStripped? (text : List Char) : Option IpAddress := read? (Text.strip text)

/-- The address with a number: of version 4 if it fits, or else of version 6. -/
def ofInt? (number : Int) : Option IpAddress :=
  if number < 0 then none
  else
    match ofBits4? number.toNat with
    | some address => some address
    | none => ofBits6? number.toNat none

/-! ## Writing -/

/-- The digits of a number in a base, `count` of them. -/
def baseDigits (base : Nat) : Nat → Nat → List Nat
  | 0, _ => []
  | count + 1, value => baseDigits base count (value / base) ++ [value % base]

def joined (separator : Char) : List (List Char) → List Char
  | [] => []
  | [last] => last
  | first :: rest => first ++ separator :: joined separator rest

def groupText (group : Nat) : List Char := Nat.toDigits 16 group

def leadingZeros (groups : List Nat) : Nat := (groups.takeWhile (· == 0)).length

/-- Where the longest stretch of zero groups starts, the first one of several, and
how long it is. -/
def longestZeros (groups : List Nat) : Nat × Nat :=
  (List.range groups.length).foldl (fun (start, length) place =>
    let run := leadingZeros (groups.drop place)
    if length < run then (place, run) else (start, length)) (0, 0)

/-- Groups with colons between them, the longest stretch of at least two zeros
left out at a double colon. -/
def groupsText (groups : List Nat) : List Char :=
  let (start, length) := longestZeros groups
  let side (part : List Nat) : List Char := joined ':' (part.map groupText)
  if length < 2 then side groups
  else side (groups.take start) ++ ':' :: ':' :: side (groups.drop (start + length))

def text : IpAddress → List Char
  | .v4 bits => joined '.' ((baseDigits 256 4 bits).map Text.decimal)
  | .v6 bits scope =>
    groupsText (baseDigits 0x10000 8 bits) ++
      ((scope.map fun name => '%' :: name.toList).getD [])

def toString (address : IpAddress) : String := String.ofList address.text

theorem length_octets (address : IpAddress) : address.octets.length = 16 := by
  cases address <;> simp [octets, mappedBlock]

end IpAddress

end LeaseRoster
