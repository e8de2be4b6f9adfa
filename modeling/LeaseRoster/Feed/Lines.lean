import LeaseRoster.Datum
import LeaseRoster.Network.Mac
import LeaseRoster.Text.Casing
import LeaseRoster.Text.Whole

/-!
# Lines of a lease file

A lease file has one lease on a line: when it expires in seconds since the start
of 1970, or zero if it never does, the hardware address, the internet address, the
name of the client and its identifier, an asterisk standing for a missing one.
Blank lines, the line with the identifier of the server, lines with too few fields
and leases of version 6, which have a number in place of the hardware address, say
nothing.
-/

namespace LeaseRoster

/-- What a line of a lease file says; the addresses and names are still texts. -/
structure LeaseEntry where
  expires : Int
  mac : MacAddress
  address : String
  hostname : String
  clientId : Option String
deriving DecidableEq

namespace Feed

/-- The lines of a text that are not blank, without the blanks around them, under
their numbers. -/
def numbered (number : Nat) : List (List Char) → List (Nat × List Char)
  | [] => []
  | line :: rest =>
    let stripped := Text.strip line
    if stripped.isEmpty then numbered (number + 1) rest
    else (number, stripped) :: numbered (number + 1) rest

/-- The lines of a text that are not blank, numbered from one. -/
def significantLines (text : List Char) : List (Nat × List Char) :=
  numbered 1 (Text.lines text)

/-- The word that starts the line with the identifier of the server. -/
def serverMark : List Char := "duid ".toList

/-- The identifier of a client, unless it is missing. -/
def clientIdOf (text : List Char) : Option String :=
  if text == ['*'] then none else some (String.ofList text)

def entryOfFields? : List (List Char) → Option LeaseEntry
  | expiry :: mac :: address :: hostname :: others =>
    match Text.readInt expiry, MacAddress.read? mac with
    | .ok expires, some mac =>
      some
        { expires, mac
          address := String.ofList address
          hostname := String.ofList hostname
          clientId := others.head?.bind clientIdOf }
    | _, _ => none
  | _ => none

def entryOfLine? (line : List Char) : Option LeaseEntry :=
  if serverMark.isPrefixOf line then none else entryOfFields? (Text.words line)

def entries (text : List Char) : List LeaseEntry :=
  (significantLines text).filterMap fun line => entryOfLine? line.2

def holds (part : List Char) : List Char → Bool
  | [] => part.isEmpty
  | character :: rest =>
    part.isPrefixOf (character :: rest) || holds part rest

/-- The source of leases that lease files are. -/
def source : String := "dnsmasq"

def leasesKey : String := "dhcp_leases"

def asksForLeases (command : List Char) : Bool :=
  holds leasesKey.toList (Text.lower command)

end Feed

namespace LeaseEntry

def toDatum (entry : LeaseEntry) : Datum :=
  .mapping
    [(.text "expires", .whole entry.expires),
     (.text "mac", .text entry.mac.toString),
     (.text "ip", .text entry.address),
     (.text "hostname", .text entry.hostname),
     (.text "client_id", (entry.clientId.map Datum.text).getD .null)]

end LeaseEntry

namespace Feed

/-- What a lease file says in answer to a command: nothing, or its entries under
their key. -/
def parse (command text : List Char) : Datum :=
  if asksForLeases command then
    .mapping [(.text leasesKey, .list ((entries text).map LeaseEntry.toDatum))]
  else .mapping []

end Feed

end LeaseRoster
