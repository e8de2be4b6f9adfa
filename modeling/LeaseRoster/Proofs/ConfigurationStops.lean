import LeaseRoster.Proofs.FaultKinds
import LeaseRoster.Proofs.FieldStops

/-!
# What stops the reading of a configuration

Of all the values of a configuration only three kinds can stop its reading: what is no text
in the place of the hardware address of a reservation or of a friendly name, and a retention
that is too long.  Everything else that is wrong with a configuration is about a field and
gathered with the other faults.
-/

namespace LeaseRoster

namespace Field

variable {α : Type}

/-- A record whose fields stop nothing stops nothing. -/
theorem mild_record (name : String) {fields : Datum → Checked α} (mild : Mild fields) :
    Mild (record name fields) := fun _ =>
  stop?_record name fields (fun entries _ => mild (.mapping entries)) fun _ => rfl

theorem mild_list {read : Reader α} (mild : Mild read) : Mild (list read) := by
  intro datum
  rw [stop?_list]
  cases datum.items? with
  | none => rfl
  | some items =>
    refine List.findSome?_eq_none_iff.mpr ?_
    exact fun item _ => mild item

/-- A record of which only the value under one key can stop the reading is stopped by that
value. -/
theorem stop?_record_of_key (name : String) {fields : Datum → Checked α} {key : String}
    {stop : Datum → Option Fault}
    (own : ∀ datum, (fields datum).stop? = (datum.get? key).bind stop) (datum : Datum) :
    (record name fields datum).stop? = (datum.get? key).bind stop := by
  refine stop?_record name fields ?_ ?_
  · intro entries opened
    rw [own, Datum.get?_of_untied opened]
  · intro foreign
    rw [Datum.get?_of_foreign foreign]
    rfl

end Field

/-! ## Pools -/

/-- Whether a fault is about a value. -/
def Fault.isValue : Fault → Bool
  | .value _ => true
  | _ => false

theorem AddressRange.ends_of_isValid {range : AddressRange} (valid : range.isValid = true) :
    ∃ first last, range.first = some first ∧ range.last = some last := by
  unfold isValid at valid
  split at valid
  next first last firstKnown lastKnown => exact ⟨first, last, firstKnown, lastKnown⟩
  next => cases valid

namespace PoolOptions

theorem mild_read : Field.Mild read := by
  refine Field.mild_record _ fun datum => ?_
  simp [fields, Field.stop?_of_mild, Field.mild_text, Field.mild_text.optional]

theorem yields_checkSubnet (pool : PoolOptions) (length : Nat)
    (first last gateway : IpAddress) :
    Yields Fault.isValue (fun _ => True) (pool.checkSubnet length first last gateway) := by
  unfold checkSubnet
  dsimp only
  split
  · exact rfl
  · exact Yields.ite rfl (Yields.ite rfl trivial)

theorem yields_checkCoherence (pool : PoolOptions) (first last : IpAddress)
    (gateway netmask : String) :
    Yields Fault.isValue (fun _ => True) (pool.checkCoherence first last gateway netmask) := by
  unfold checkCoherence
  split
  · exact rfl
  · refine Yields.ite rfl (Yields.ite rfl ?_)
    split
    · exact rfl
    · exact rfl
    · exact yields_checkSubnet _ _ _ _ _

/-- A pool is only refused for its own values: where the coherence of a range is looked at,
both of its ends are known. -/
theorem yields_check (pool : PoolOptions) : Yields Fault.isValue (fun _ => True) pool.check := by
  unfold check
  split
  next valid =>
    obtain ⟨first, last, firstKnown, lastKnown⟩ := AddressRange.ends_of_isValid valid
    unfold checkNetwork
    rw [firstKnown, lastKnown]
    split
    · exact yields_checkCoherence _ _ _ _ _
    · exact trivial
  next => exact rfl

end PoolOptions

/-! ## The other records -/

theorem LinkTemplate.mild_read : Field.Mild read := by
  refine Field.mild_text.optional.thenCheck fun source => ?_
  unfold ofText
  split
  · rfl
  · split <;> rfl

theorem LogLevel.mild_read : Field.Mild read := by
  refine Field.mild_text.thenCheck fun text => ?_
  split <;> rfl

theorem NameServerOptions.mild_read : Field.Mild read := by
  have bounded (greatest : Nat) : Field.Mild (Field.positiveUpTo greatest) :=
    (Field.mild_integer.thenCheck fun _ => by split <;> rfl).thenCheck fun _ => by split <;> rfl
  refine Field.mild_record _ fun datum => ?_
  simp [fields, Field.stop?_of_mild, Field.mild_text, Field.mild_flag, bounded]

theorem SnapshotOptions.mild_read : Field.Mild read := by
  have natural : Field.Mild Field.natural := Field.mild_integer.thenCheck fun _ => by split <;> rfl
  refine Field.mild_record _ fun datum => ?_
  simp [fields, Field.stop?_of_mild, Field.mild_text, natural]

theorem Reservation.stop?_read (datum : Datum) :
    (read datum).stop? = (datum.get? "mac").bind Field.foreignMac? := by
  refine Field.stop?_record_of_key _ (fun record => ?_) datum
  simp [fields, Field.stop?_of_mild, Field.mild_text, Field.mild_address,
    LinkTemplate.mild_read]

theorem FriendlyName.stop?_read (datum : Datum) :
    (read datum).stop? = (datum.get? "mac").bind Field.foreignMac? := by
  refine Field.stop?_record_of_key _ (fun record => ?_) datum
  simp [fields, Field.stop?_of_mild, Field.mild_text, LinkTemplate.mild_read]

theorem ServerOptions.stop?_read (datum : Datum) :
    (read datum).stop? = (datum.get? "forget_past_clients_after").bind Field.endless? := by
  have positive : Field.Mild Field.positive :=
    Field.mild_integer.thenCheck fun _ => by split <;> rfl
  have positiveNumber : Field.Mild Field.positiveNumber :=
    Field.mild_number.thenCheck fun _ => by split <;> rfl
  refine Field.stop?_record_of_key _ (fun record => ?_) datum
  simp [fields, Field.stop?_of_mild, Field.mild_text, positive, positiveNumber]

/-! ## The whole configuration -/

namespace Options

/-- The fault of the first entry of a list whose hardware address is no text. -/
def foreignMacIn? (configuration : Datum) (name : String) : Option Fault :=
  ((configuration.get? name).bind Datum.items?).bind fun entries =>
    entries.findSome? fun entry => (entry.get? "mac").bind Field.foreignMac?

/-- The fault of a retention that is too long. -/
def endlessRetention? (configuration : Datum) : Option Fault :=
  ((configuration.get? "dhcp_server").bind (·.get? "forget_past_clients_after")).bind
    Field.endless?

/-- The fault that stops the reading of a configuration, if one does. -/
def stop? (configuration : Datum) : Option Fault :=
  (foreignMacIn? configuration "dhcp_ip_address_reservations").or <|
    (foreignMacIn? configuration "dhcp_clients_friendly_names").or <|
      endlessRetention? configuration

theorem stop?_entries {α : Type} {read : Field.Reader α}
    (own : ∀ entry, (read entry).stop? = (entry.get? "mac").bind Field.foreignMac?)
    (configuration : Datum) (name : String) :
    ((configuration.get? name).bind fun datum => (Field.list read datum).stop?) =
      foreignMacIn? configuration name := by
  simp only [Field.stop?_list, own, foreignMacIn?, Option.bind_assoc]

theorem stop?_fields (record : Datum) : (fields record).stop? = stop? record := by
  have pools := Field.stop?_of_mild (Field.mild_list PoolOptions.mild_read)
    (record.get? "dhcp_pools")
  have reservations := stop?_entries Reservation.stop?_read record "dhcp_ip_address_reservations"
  have names := stop?_entries FriendlyName.stop?_read record "dhcp_clients_friendly_names"
  simp [fields, pools, reservations, names, stop?, endlessRetention?, Option.bind_assoc,
    Option.or_assoc, Field.stop?_of_mild, ServerOptions.stop?_read, NameServerOptions.mild_read,
    SnapshotOptions.mild_read, LogLevel.mild_read]

/-- The rule on pools stops nothing. -/
theorem stop?_checkPools (pools : List PoolOptions) :
    (Checked.ofExcept (checkPools pools)).stop? = none := by
  have own : Yields Fault.isValue (fun _ => True) (checkPools pools) :=
    yields_forM PoolOptions.yields_check pools
  cases outcome : checkPools pools with
  | ok _ => rfl
  | error fault =>
    have kind := own.kind_of_error outcome
    cases fault with
    | value reason => rfl
    | _ => cases kind

theorem stop?_read (datum : Datum) : (read datum).stop? = stop? datum := by
  refine Field.stop?_record _ _ ?_ ?_
  · intro entries opened
    rw [Checked.stop?_thenCheck, stop?_fields]
    · simp [stop?, foreignMacIn?, endlessRetention?, Datum.get?_of_untied opened]
    · intro options
      rw [Checked.stop?_transform, stop?_checkPools]
  · intro foreign
    simp [stop?, foreignMacIn?, endlessRetention?, Datum.get?_of_foreign foreign]

/-! ## The kinds of stops -/

/-- Whether a fault is one that may stop the reading of a configuration. -/
def isStop : Fault → Bool
  | .wrongKind => true
  | .foreignValue => true
  | .beyondRange => true
  | _ => false

theorem isStop_of_foreignMacIn? {configuration : Datum} {name : String} {fault : Fault}
    (stops : foreignMacIn? configuration name = some fault) : isStop fault = true := by
  obtain ⟨entries, -, first⟩ := Option.bind_eq_some_iff.mp stops
  obtain ⟨entry, -, found⟩ := List.exists_of_findSome?_eq_some first
  obtain ⟨datum, -, foreign⟩ := Option.bind_eq_some_iff.mp found
  cases datum <;> cases foreign <;> rfl

theorem isStop_of_endlessRetention? {configuration : Datum} {fault : Fault}
    (stops : endlessRetention? configuration = some fault) : isStop fault = true := by
  obtain ⟨datum, -, endless⟩ := Option.bind_eq_some_iff.mp stops
  unfold Field.endless? at endless
  split at endless
  · cases endless
    rfl
  · cases endless

theorem isStop_of_stop? {configuration : Datum} {fault : Fault}
    (stops : stop? configuration = some fault) : isStop fault = true := by
  rcases Option.or_eq_some_iff.mp stops with reservation | ⟨-, others⟩
  · exact isStop_of_foreignMacIn? reservation
  · rcases Option.or_eq_some_iff.mp others with name | ⟨-, retention⟩
    · exact isStop_of_foreignMacIn? name
    · exact isStop_of_endlessRetention? retention

end Options

end LeaseRoster
