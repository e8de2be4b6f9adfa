import LeaseRoster.Link.Uri
import LeaseRoster.Registry

/-!
# Links of clients

The link of a client comes from a template: the one of its friendly name, or else
the one of the reservation of its internet address.  What the template renders to
is kept only if it is the address of a page on some host.
-/

namespace LeaseRoster

namespace Link

/-- The values that a template can name. -/
structure Values where
  mac : List Char
  address : List Char
  hostname : List Char
  friendlyName : List Char
  domain : List Char

/-- The value under a name: the domain also completes the name of the client. -/
def Values.get? (values : Values) (name : List Char) : Option (List Char) :=
  match String.ofList name with
  | "mac" => some values.mac
  | "ip" => some values.address
  | "hostname" => some values.hostname
  | "friendly_name" => some values.friendlyName
  | "dns_domain" => some values.domain
  | "fqdn" => some (values.hostname ++ '.' :: values.domain)
  | _ => none

/-- What becomes of a template. -/
inductive Outcome
  | absent
  | rendered (link : List Char)
  | notRendered (template : LinkTemplate) (fault : Fault)
  | refused (template : LinkTemplate) (rendered : List Char)

def ofTemplate (values : Values) (template : LinkTemplate) : Outcome :=
  match template.render values.get? with
  | .error fault => .notRendered template fault
  | .ok result =>
    if Uri.isAbsolute result then .rendered result else .refused template result

/-- The link of an outcome, empty where there is none. -/
def Outcome.link : Outcome → String
  | .rendered link => String.ofList link
  | _ => ""

/-- The notices about a template that gave no link. -/
def Outcome.notices (mac : List Char) : Outcome → List Notice
  | .notRendered template fault =>
    [.linkNotRendered template.source (String.ofList mac) fault]
  | .refused template result =>
    [.linkRefused template.source (String.ofList result)]
  | _ => []

/-- The template for a client: of its friendly name, or else of the reservation. -/
def template? (name : Option FriendlyName) (reservation : Option Reservation) :
    Option LinkTemplate :=
  match name.bind FriendlyName.link with
  | some template => some template
  | none => reservation.bind Reservation.link

/-- The link of a client with a possible friendly name and a possible reservation. -/
def evaluate (name : Option FriendlyName) (reservation : Option Reservation)
    (mac address hostname domain : List Char) : Outcome :=
  match template? name reservation with
  | none => .absent
  | some template =>
    let friendlyName := ((name.map FriendlyName.name).getD "").toList
    ofTemplate ⟨mac, address, hostname, friendlyName, domain⟩ template

end Link

end LeaseRoster
