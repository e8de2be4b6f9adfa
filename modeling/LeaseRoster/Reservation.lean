import LeaseRoster.JsonValue
import LeaseRoster.Link.Template
import LeaseRoster.Record.Field

/-!
# Reservations and friendly names

A reservation ties an internet address to a hardware address; a friendly name
gives a client a name of the operator's choice.  Either may carry a template for a
link to a page of the client.
-/

namespace LeaseRoster

/-- An internet address that is reserved for a hardware address. -/
structure Reservation where
  name : String
  mac : MacAddress
  address : IpAddress
  link : Option LinkTemplate
deriving DecidableEq

/-- A name given to the client with a hardware address. -/
structure FriendlyName where
  name : String
  mac : MacAddress
  link : Option LinkTemplate
deriving DecidableEq

namespace LinkTemplate

/-- A template that is set unless its text is empty. -/
def ofText (source : String) : Checked (Option LinkTemplate) :=
  if source.isEmpty then .accepted none
  else
    match ofSource? source with
    | some template => .accepted (some template)
    | none =>
      .refuse (.value (.malformedTemplate
        (String.ofList (Text.quoted source.toList))))

/-- The template of a record, which may be null or empty. -/
def read : Field.Reader (Option LinkTemplate) := fun datum =>
  (Field.optional Field.text datum).thenCheck fun source =>
    ofText (source.getD "")

def toJson (template : Option LinkTemplate) : JsonValue :=
  .optionalText (template.map LinkTemplate.source)

end LinkTemplate

namespace Reservation

def fields (record : Datum) : Checked Reservation :=
  Reservation.mk <$> Field.withDefault record "name" "" Field.text
    <*> Field.required record "mac" Field.mac
    <*> Field.required record "ip" Field.address
    <*> Field.withDefault record "link" none LinkTemplate.read

def read : Field.Reader Reservation := Field.record "Reservation" fields

def toJson (reservation : Reservation) : JsonValue :=
  .object
    [("name", .text reservation.name),
     ("mac", .text reservation.mac.toString),
     ("ip", .text reservation.address.toString),
     ("link", LinkTemplate.toJson reservation.link)]

end Reservation

namespace FriendlyName

def fields (record : Datum) : Checked FriendlyName :=
  FriendlyName.mk <$> Field.required record "name" Field.text
    <*> Field.required record "mac" Field.mac
    <*> Field.withDefault record "link" none LinkTemplate.read

def read : Field.Reader FriendlyName := Field.record "FriendlyName" fields

def toJson (entry : FriendlyName) : JsonValue :=
  .object
    [("name", .text entry.name),
     ("mac", .text entry.mac.toString),
     ("link", LinkTemplate.toJson entry.link)]

end FriendlyName

end LeaseRoster
