import LeaseRoster.History.Store
import LeaseRoster.Proofs.MacSpellings

/-!
# Readable rows

A row makes a sighting if all of its four cells can be read.  None of them is a garbled text then,
so that a row that makes a sighting can be fetched.
-/

namespace LeaseRoster

namespace Field

theorem mac_eq_accepted_iff (datum : Datum) (address : MacAddress) :
    mac datum = .accepted address ↔ readMac datum = .ok address :=
  Checked.ofExcept_eq_accepted_iff _ _

end Field

namespace Row

/-- The hardware address that a row spells, if it spells one. -/
def address? (row : Row) : Option MacAddress :=
  match row.mac with
  | .text spelled => MacAddress.read? spelled.toList
  | _ => none

theorem readMac_eq_ok_iff (row : Row) (mac : MacAddress) :
    Field.readMac row.mac.toDatum = .ok mac ↔ row.address? = some mac := by
  unfold address?
  cases row.mac with
  | text spelled =>
    change Field.readMac (.text spelled) = _ ↔ _
    rw [Field.readMac_text]
    cases read : MacAddress.read? spelled.toList <;> simp [read]
  | _ => simp [Cell.toDatum, Field.readMac]

theorem sighting?_eq_some (row : Row) (sighting : Sighting) :
    row.sighting? = some sighting ↔ row.sighting = .ok sighting := by
  unfold sighting?
  cases row.sighting <;> simp [Except.toOption]

/-- The four cells of a row say what a sighting says.  An empty name counts as none, and so
does a number that is missing. -/
structure Tells (row : Row) (sighting : Sighting) : Prop where
  address : row.address? = some sighting.mac
  hostname : Field.text (orElse row.hostname.toDatum (.text "")) = .accepted sighting.hostname
  lastSeen : momentOf row.lastSeen = .ok sighting.lastSeen
  epoch : Field.integer (orElse row.epoch.toDatum (.whole 0)) = .accepted sighting.epoch

/-- A row makes a sighting exactly if all its cells tell it. -/
theorem sighting?_eq_some_iff (row : Row) (sighting : Sighting) :
    row.sighting? = some sighting ↔ row.Tells sighting := by
  have fields (lastSeen : Moment) (name number : Datum) :
      (Sighting.fields (.mapping
        [(.text "mac", row.mac.toDatum), (.text "hostname", name),
         (.text "last_seen", .moment lastSeen),
         (.text "generation_epoch", number)])).result = .ok sighting ↔
        row.address? = some sighting.mac ∧ Field.text name = .accepted sighting.hostname ∧
          lastSeen = sighting.lastSeen ∧ Field.integer number = .accepted sighting.epoch := by
    have moment : Field.moment (.moment lastSeen) = .accepted lastSeen := rfl
    -- All four fields are there, so that only their own checks can refuse one.
    obtain ⟨mac, hostname, seen, epoch⟩ := sighting
    simp only [Checked.result_eq_ok_iff, Sighting.fields, Checked.seq_eq_accepted_iff,
      Checked.map_eq_accepted_iff, Field.required, Field.withDefault, Datum.get?, Datum.untied,
      Datum.isText, List.find?_cons, String.reduceBEq, Option.map_some,
      Checked.inside_eq_accepted_iff, Field.mac_eq_accepted_iff, readMac_eq_ok_iff, moment]
    constructor
    · rintro ⟨_, _, ⟨_, _, ⟨_, _, ⟨_, address, rfl⟩, named, rfl⟩, ⟨rfl⟩, rfl⟩, number, made⟩
      cases made
      exact ⟨address, named, rfl, number⟩
    · rintro ⟨address, named, rfl, number⟩
      exact ⟨_, _, ⟨_, _, ⟨_, _, ⟨_, address, rfl⟩, named, rfl⟩, rfl, rfl⟩, number, rfl⟩
  rw [sighting?_eq_some, Row.sighting]
  cases read : momentOf row.lastSeen with
  | error fault =>
    constructor
    · intro made
      cases made
    · intro tells
      rw [tells.lastSeen] at read
      cases read
  | ok lastSeen =>
    have made := fields lastSeen (orElse row.hostname.toDatum (.text ""))
      (orElse row.epoch.toDatum (.whole 0))
    simp only [bind, Except.bind]
    constructor
    · intro some
      obtain ⟨address, named, rfl, number⟩ := made.mp some
      exact ⟨address, named, read, number⟩
    · intro tells
      have same : lastSeen = sighting.lastSeen := Except.ok.inj (read.symm.trans tells.lastSeen)
      exact made.mpr ⟨tells.address, tells.hostname, same, tells.epoch⟩

theorem address?_of_sighting? {row : Row} {sighting : Sighting}
    (made : row.sighting? = some sighting) : row.address? = some sighting.mac :=
  ((row.sighting?_eq_some_iff sighting).mp made).address

/-! ## Garbled texts -/

/-- The bytes of a garbled text count as a value, and they are no text. -/
theorem orElse_of_garbled {cell : Cell} {values : List UInt8} (garbled : cell.garbled? = some values)
    (other : Datum) :
    orElse cell.toDatum other = .bytes values ∧ Text.decodeStrict values = none := by
  unfold Cell.garbled? at garbled
  split at garbled
  · rename_i unread
    cases garbled
    refine ⟨?_, unread⟩
    cases values with
    | nil => cases unread
    | cons byte rest => rfl
  · cases garbled

theorem Tells.garbled?_eq_none {row : Row} {sighting : Sighting} (tells : row.Tells sighting) :
    row.garbled? = none := by
  rw [garbled?, List.findSome?_eq_none_iff]
  have mac : row.mac.garbled? = none := by
    have spelled := tells.address
    unfold address? at spelled
    split at spelled
    · rename_i text
      rw [text]
      rfl
    · cases spelled
  have hostname : row.hostname.garbled? = none := by
    refine Option.eq_none_iff_forall_ne_some.mpr fun values garbled => ?_
    obtain ⟨bytes, unread⟩ := orElse_of_garbled garbled (.text "")
    have accepted := tells.hostname
    simp [bytes, Field.text, unread, Checked.refuse] at accepted
  have lastSeen : row.lastSeen.garbled? = none := by
    have read := tells.lastSeen
    unfold momentOf at read
    split at read
    · rename_i text
      rw [text]
      rfl
    · cases read
  have epoch : row.epoch.garbled? = none := by
    refine Option.eq_none_iff_forall_ne_some.mpr fun values garbled => ?_
    obtain ⟨bytes, unread⟩ := orElse_of_garbled garbled (.whole 0)
    have accepted := tells.epoch
    simp [bytes, Field.integer, Field.fromText, Field.textOf?, unread, Checked.refuse] at accepted
  simp [columns, mac, hostname, lastSeen, epoch]

/-- A row that makes a sighting has no garbled text. -/
theorem garbled?_of_sighting? {row : Row} {sighting : Sighting}
    (made : row.sighting? = some sighting) : row.garbled? = none :=
  ((row.sighting?_eq_some_iff sighting).mp made).garbled?_eq_none

end Row

end LeaseRoster
