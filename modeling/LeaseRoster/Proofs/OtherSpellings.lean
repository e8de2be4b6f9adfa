import LeaseRoster.Proofs.FeedRecords
import LeaseRoster.Proofs.RegistrySurvivors
import Mathlib.Data.List.Forall2
import Mathlib.Data.List.TakeWhile

/-!
# Hardware addresses in other spellings

A hardware address may be spelled in many ways: in either case, with separators of three
kinds anywhere among its digits or with none, and with blanks around it.  Every reader of
records goes from the spelling to the address at once.  So data that differ in spellings
only, each place for itself, give the same reservations, friendly names and leases, and
the same registry.
-/

namespace LeaseRoster

/-! ## Spellings of an address -/

namespace MacAddress

/-- The usual spellings of an address: its digits in either case with separators
anywhere among them, and blanks around the whole. -/
inductive IsSpelling (mac : MacAddress) : List Char → Prop
  | spelled {before core after : List Char}
      (beforeBlank : ∀ character ∈ before, Text.isBlank character = true)
      (afterBlank : ∀ character ∈ after, Text.isBlank character = true)
      (marks : ∀ character ∈ core,
        isSeparator character = true ∨ (digit? character).isSome = true)
      (digits : core.filterMap digit? = mac.digits) :
      IsSpelling mac (before ++ core ++ after)

theorem digit?_of_isSeparator {character : Char}
    (separates : isSeparator character = true) : digit? character = none := by
  simp only [isSeparator, Bool.or_eq_true, beq_iff_eq] at separates
  obtain (rfl | rfl) | rfl := separates <;> decide

theorem not_isBlank_of_isSeparator {character : Char}
    (separates : isSeparator character = true) : Text.isBlank character = false := by
  simp only [isSeparator, Bool.or_eq_true, beq_iff_eq] at separates
  obtain (rfl | rfl) | rfl := separates <;> decide

theorem code_of_digit? {character : Char} (reads : (digit? character).isSome = true) :
    0x30 ≤ character.toNat ∧ character.toNat ≤ 0x39 ∨
      0x61 ≤ character.toNat ∧ character.toNat ≤ 0x66 ∨
      0x41 ≤ character.toNat ∧ character.toNat ≤ 0x46 := by
  have value : (Text.hexValue? character).isSome = true := by
    unfold digit? at reads
    split at reads
    next value read => simp [read]
    next => cases reads
  unfold Text.hexValue? at value
  simp only [Bool.and_eq_true, decide_eq_true_eq] at value
  split at value
  · omega
  split at value
  · omega
  split at value
  · omega
  · cases value

theorem not_isBlank_of_digit? {character : Char}
    (reads : (digit? character).isSome = true) : Text.isBlank character = false := by
  have code := code_of_digit? reads
  simp only [Text.isBlank, Bool.or_eq_false_iff, Bool.and_eq_false_iff,
    decide_eq_false_iff_not, beq_eq_false_iff_ne]
  omega

theorem mapM_digit?_filter {core : List Char}
    (marks : ∀ character ∈ core,
      isSeparator character = true ∨ (digit? character).isSome = true) :
    (core.filter fun character => !isSeparator character).mapM digit? =
      some (core.filterMap digit?) := by
  induction core with
  | nil => rfl
  | cons first rest ih =>
    have others := ih fun character member => marks character (List.mem_cons_of_mem _ member)
    cases separates : isSeparator first with
    | true => simp [separates, digit?_of_isSeparator separates, others]
    | false =>
      have reads : (digit? first).isSome = true := by
        simpa [separates] using marks first List.mem_cons_self
      obtain ⟨digit, read⟩ := Option.isSome_iff_exists.mp reads
      simp [separates, read, others, List.mapM_cons]

end MacAddress

namespace Text

theorem strip_between {before core after : List Char}
    (opening : ∀ character ∈ before, isBlank character = true)
    (closing : ∀ character ∈ after, isBlank character = true)
    (clear : ∀ character ∈ core, isBlank character = false) :
    strip (before ++ core ++ after) = core := by
  rw [strip_surrounded opening closing, strip_eq_self clear]

end Text

namespace MacAddress

/-- Every usual spelling is read as the address. -/
theorem read?_of_isSpelling {mac : MacAddress} {text : List Char}
    (spelling : IsSpelling mac text) : read? text = some mac := by
  obtain ⟨opening, closing, marks, digits⟩ := spelling
  rename_i before core after
  have clear : ∀ character ∈ core, Text.isBlank character = false := by
    intro character member
    rcases marks character member with separates | reads
    · exact not_isBlank_of_isSeparator separates
    · exact not_isBlank_of_digit? reads
  have counts : significant (before ++ core ++ after) =
      core.filter fun character => !isSeparator character := by
    rw [significant, Text.strip_between opening closing clear, dropLineFeed, if_neg]
    intro feed
    have last := List.mem_of_getLast? (eq_of_beq feed)
    have blank := clear '\n' (List.mem_filter.mp last).1
    exact absurd blank (by decide)
  rw [read?_eq_some_iff, counts, mapM_digit?_filter marks, digits]

end MacAddress

/-! ## Records -/

namespace Datum

/-- A value, or a text with one in its place that spells the same address. -/
inductive Respelled : Datum → Datum → Prop
  | same (datum : Datum) : Respelled datum datum
  | spelled {one other : String} {mac : MacAddress}
      (read : MacAddress.read? one.toList = some mac)
      (otherRead : MacAddress.read? other.toList = some mac) :
      Respelled (.text one) (.text other)

/-- An entry of a record, of which only the address may be spelled differently. -/
inductive EntryRespelled : Datum × Datum → Datum × Datum → Prop
  | same (entry : Datum × Datum) : EntryRespelled entry entry
  | mac {one other : Datum} (respelled : Respelled one other) :
      EntryRespelled (.text "mac", one) (.text "mac", other)

inductive RecordRespelled : Datum → Datum → Prop
  | same (record : Datum) : RecordRespelled record record
  | mapping {entries others : List (Datum × Datum)}
      (respelled : List.Forall₂ EntryRespelled entries others) :
      RecordRespelled (.mapping entries) (.mapping others)

theorem Respelled.readMac {one other : Datum} (respelled : Respelled one other) :
    Field.readMac one = Field.readMac other := by
  cases respelled with
  | same => rfl
  | spelled read otherRead => rw [Field.readMac_text, Field.readMac_text, read, otherRead]

theorem Respelled.macKey {one other : Datum} (respelled : Respelled one other) :
    Registry.macKey one = Registry.macKey other := by
  rw [Registry.macKey, Registry.macKey, respelled.readMac]

namespace RecordRespelled

variable {one other : Datum}

theorem get? (respelled : RecordRespelled one other) (name : String)
    (distinct : name ≠ "mac") : one.get? name = other.get? name := by
  cases respelled with
  | same => rfl
  | mapping entries =>
    simp only [Datum.get?, untied]
    induction entries with
    | nil => rfl
    | @cons first _ _ _ entry _ ih =>
      cases entry with
      | same =>
        cases named : first.1.isText name <;> simp [named, ih]
      | mac _ =>
        have skipped : (Datum.text "mac").isText name = false := by
          simp [isText, distinct.symm]
        simp [skipped, ih]

theorem get?_mac (respelled : RecordRespelled one other) :
    Option.Rel Respelled (one.get? "mac") (other.get? "mac") := by
  cases respelled with
  | same =>
    cases one.get? "mac" with
    | none => exact .none
    | some datum => exact .some (.same datum)
  | mapping entries =>
    simp only [Datum.get?, untied]
    induction entries with
    | nil => exact .none
    | @cons first _ _ _ entry _ ih =>
      cases entry with
      | same =>
        cases named : first.1.isText "mac" with
        | true => simpa [named] using Option.Rel.some (.same first.2)
        | false => simpa [named] using ih
      | mac respelled =>
        have found : (Datum.text "mac").isText "mac" = true := by decide
        simpa [found] using Option.Rel.some respelled

theorem get (respelled : RecordRespelled one other) (name : String)
    (distinct : name ≠ "mac") : one.get name = other.get name := by
  rw [Datum.get, Datum.get, respelled.get? name distinct]

theorem get_mac (respelled : RecordRespelled one other) :
    Respelled (one.get "mac") (other.get "mac") := by
  have related := respelled.get?_mac
  unfold Datum.get
  generalize one.get? "mac" = first at related ⊢
  generalize other.get? "mac" = second at related ⊢
  cases related with
  | none => exact .same .null
  | some respelled => exact respelled

end RecordRespelled

end Datum

open Datum (Respelled EntryRespelled RecordRespelled)

namespace Field

variable {α : Type} {one other : Datum}

theorem mac_respelled (respelled : Respelled one other) : mac one = mac other := by
  rw [mac, mac, respelled.readMac]

theorem required_respelled (respelled : RecordRespelled one other) {name : String}
    (distinct : name ≠ "mac") (read : Reader α) :
    required one name read = required other name read := by
  rw [required, required, respelled.get? name distinct]

theorem withDefault_respelled (respelled : RecordRespelled one other) {name : String}
    (distinct : name ≠ "mac") (value : α) (read : Reader α) :
    withDefault one name value read = withDefault other name value read := by
  rw [withDefault, withDefault, respelled.get? name distinct]

theorem required_mac_respelled (respelled : RecordRespelled one other) :
    required one "mac" mac = required other "mac" mac := by
  have related := respelled.get?_mac
  unfold required
  generalize one.get? "mac" = first at related ⊢
  generalize other.get? "mac" = second at related ⊢
  cases related with
  | none => rfl
  | some respelled =>
    exact congrArg (Checked.inside (.name "mac")) (mac_respelled respelled)

theorem record_respelled {fields : Datum → Checked α}
    (fieldsAgree : ∀ {one other}, RecordRespelled one other → fields one = fields other)
    (name : String) (respelled : RecordRespelled one other) :
    record name fields one = record name fields other := by
  cases respelled with
  | same => rfl
  | mapping entries => exact fieldsAgree (.mapping entries)

theorem list_respelled {read : Reader α}
    (readAgrees : ∀ {one other}, RecordRespelled one other → read one = read other)
    {items others : List Datum} (respelled : List.Forall₂ RecordRespelled items others) :
    list read (.list items) = list read (.list others) := by
  have all (place : Nat) : Checked.all read place items = Checked.all read place others := by
    induction respelled generalizing place with
    | nil => rfl
    | cons item _ ih => rw [Checked.all, Checked.all, readAgrees item, ih]
  exact all 0

end Field

section Records

variable {one other : Datum}

theorem Reservation.read_respelled (respelled : RecordRespelled one other) :
    Reservation.read one = Reservation.read other := by
  refine Field.record_respelled (fun respelled => ?_) _ respelled
  rw [fields, fields, Field.required_mac_respelled respelled,
    Field.required_respelled respelled (by decide),
    Field.withDefault_respelled respelled (by decide),
    Field.withDefault_respelled respelled (by decide)]

theorem FriendlyName.read_respelled (respelled : RecordRespelled one other) :
    FriendlyName.read one = FriendlyName.read other := by
  refine Field.record_respelled (fun respelled => ?_) _ respelled
  rw [fields, fields, Field.required_mac_respelled respelled,
    Field.required_respelled respelled (by decide),
    Field.withDefault_respelled respelled (by decide)]

theorem Lease.fields_respelled (respelled : RecordRespelled one other) :
    Lease.fields one = Lease.fields other := by
  rw [fields, fields, Field.required_mac_respelled respelled,
    Field.required_respelled respelled (by decide),
    Field.withDefault_respelled respelled (by decide),
    Field.withDefault_respelled respelled (by decide),
    Field.withDefault_respelled respelled (by decide)]

theorem Lease.read_respelled (respelled : RecordRespelled one other) :
    Lease.read one = Lease.read other :=
  Field.record_respelled Lease.fields_respelled _ respelled

theorem Sighting.read_respelled (respelled : RecordRespelled one other) :
    Sighting.read one = Sighting.read other := by
  refine Field.record_respelled (fun respelled => ?_) _ respelled
  rw [fields, fields, Field.required_mac_respelled respelled,
    Field.required_respelled respelled (by decide),
    Field.withDefault_respelled respelled (by decide),
    Field.withDefault_respelled respelled (by decide)]

end Records

/-- The registry of reservations and friendly names as a configuration has them. -/
def Registry.ofData (reservations names : List Datum) : Except Fault Registry := do
  let reservations ← (Field.list Reservation.read (.list reservations)).result
  let names ← (Field.list FriendlyName.read (.list names)).result
  return Registry.build reservations names

theorem Registry.ofData_respelled {reservations otherReservations names otherNames : List Datum}
    (reserved : List.Forall₂ RecordRespelled reservations otherReservations)
    (named : List.Forall₂ RecordRespelled names otherNames) :
    Registry.ofData reservations names = Registry.ofData otherReservations otherNames := by
  rw [ofData, ofData, Field.list_respelled Reservation.read_respelled reserved,
    Field.list_respelled FriendlyName.read_respelled named]

/-! ## Feeds -/

namespace Feed

theorem leaseOfEntry_respelled {one other : Datum} (respelled : RecordRespelled one other) :
    leaseOfEntry one = leaseOfEntry other := by
  have written (expires : Datum) :
      Lease.fields (.mapping
        [(.text "mac", one.get "mac"), (.text "ip", one.get "ip"),
         (.text "hostname", one.get "hostname"), (.text "expires", expires),
         (.text "client_id", one.get "client_id")]) =
      Lease.fields (.mapping
        [(.text "mac", other.get "mac"), (.text "ip", other.get "ip"),
         (.text "hostname", other.get "hostname"), (.text "expires", expires),
         (.text "client_id", other.get "client_id")]) := by
    rw [respelled.get "ip" (by decide), respelled.get "hostname" (by decide),
      respelled.get "client_id" (by decide)]
    refine Lease.fields_respelled (.mapping (.cons (.mac respelled.get_mac) ?_))
    exact List.forall₂_same.mpr fun entry _ => .same entry
  unfold leaseOfEntry
  rw [respelled.get "expires" (by decide)]
  simp only [written]

theorem map_leases_withLease (reading : Except Fault Outcome) (lease : Lease) :
    (reading.map fun outcome => outcome.withLease lease).map Outcome.leases =
      (reading.map Outcome.leases).map (List.cons lease) := by
  cases reading <;> rfl

theorem map_leases_withNotice (reading : Except Fault Outcome) (notice : Notice) :
    (reading.map fun outcome => outcome.withNotice notice).map Outcome.leases =
      reading.map Outcome.leases := by
  cases reading <;> rfl

/-- Entries that differ in spellings only give the same leases, or the same fault. -/
theorem leasesOfEntries_respelled (source : String) {entries others : List Datum}
    (respelled : List.Forall₂ RecordRespelled entries others) :
    (leasesOfEntries source entries).map Outcome.leases =
      (leasesOfEntries source others).map Outcome.leases := by
  induction respelled with
  | nil => rfl
  | @cons one other rest others entry _ ih =>
    have mappings {one other : List (Datum × Datum)}
        (respelled : RecordRespelled (.mapping one) (.mapping other)) :
        (leasesOfEntries source (.mapping one :: rest)).map Outcome.leases =
          (leasesOfEntries source (.mapping other :: others)).map Outcome.leases := by
      rw [leasesOfEntries, leasesOfEntries, leaseOfEntry_respelled respelled]
      split
      · rw [map_leases_withLease, map_leases_withLease, ih]
      · split
        · rw [map_leases_withNotice, map_leases_withNotice, ih]
        · rfl
    cases entry with
    | mapping entries => exact mappings (.mapping entries)
    | same =>
      cases one with
      | mapping entries => exact mappings (.same _)
      | _ => rfl

/-- The leases of records that are given as such. -/
def leasesOfRecords (records : List Datum) : Except Fault Outcome :=
  (records.mapM fun record => (Lease.read record).result).map fun leases => ⟨leases, []⟩

theorem leasesOfRecords_respelled {records others : List Datum}
    (respelled : List.Forall₂ RecordRespelled records others) :
    leasesOfRecords records = leasesOfRecords others := by
  have all : records.mapM (fun record => (Lease.read record).result) =
      others.mapM fun record => (Lease.read record).result := by
    induction respelled with
    | nil => rfl
    | cons record _ ih => rw [List.mapM_cons, List.mapM_cons, Lease.read_respelled record, ih]
  rw [leasesOfRecords, leasesOfRecords, all]

/-- A line of a lease file, of which only the address may be spelled differently. -/
inductive LineRespelled : List Char → List Char → Prop
  | same (line : List Char) : LineRespelled line line
  | mac {expiry one other line otherLine : List Char} {others : List (List Char)}
      {mac : MacAddress} (words : Text.words line = expiry :: one :: others)
      (otherWords : Text.words otherLine = expiry :: other :: others)
      (read : MacAddress.read? one = some mac)
      (otherRead : MacAddress.read? other = some mac) : LineRespelled line otherLine

theorem LineRespelled.entryOfLine? {line other : List Char}
    (respelled : LineRespelled line other) :
    entryOfLine? (Text.strip line) = entryOfLine? (Text.strip other) := by
  cases respelled with
  | same => rfl
  | @mac _ _ _ _ _ others _ words otherWords read otherRead =>
    rw [entryOfLine?_strip, entryOfLine?_strip, words, otherWords]
    rcases others with _ | ⟨address, _ | ⟨hostname, rest⟩⟩
    · rfl
    · rfl
    · simp only [entryOfFields?, read, otherRead]

theorem leasesOfText_respelled {text other : List Char}
    (respelled : List.Forall₂ LineRespelled (Text.lines text) (Text.lines other)) :
    leasesOfText text = leasesOfText other := by
  have same : entries text = entries other := by
    rw [entries_eq_filterMap, entries_eq_filterMap]
    generalize Text.lines text = lines at respelled ⊢
    generalize Text.lines other = others at respelled ⊢
    induction respelled with
    | nil => rfl
    | cons line _ ih => rw [List.filterMap_cons, List.filterMap_cons, line.entryOfLine?, ih]
  rw [leasesOfText_eq, leasesOfText_eq, same]

/-- Readings of one feed, given as entries of a source, as records, or as the text of a
lease file. -/
inductive ReadingRespelled : Except Fault Outcome → Except Fault Outcome → Prop
  | entries (source : String) {entries others : List Datum}
      (respelled : List.Forall₂ RecordRespelled entries others) :
      ReadingRespelled (leasesOfEntries source entries) (leasesOfEntries source others)
  | records {records others : List Datum}
      (respelled : List.Forall₂ RecordRespelled records others) :
      ReadingRespelled (leasesOfRecords records) (leasesOfRecords others)
  | text {text other : List Char}
      (respelled : List.Forall₂ LineRespelled (Text.lines text) (Text.lines other)) :
      ReadingRespelled (leasesOfText text) (leasesOfText other)

theorem ReadingRespelled.leases {reading other : Except Fault Outcome}
    (respelled : ReadingRespelled reading other) :
    reading.map Outcome.leases = other.map Outcome.leases := by
  cases respelled with
  | entries source respelled => exact leasesOfEntries_respelled source respelled
  | records respelled => rw [leasesOfRecords_respelled respelled]
  | text respelled => rw [leasesOfText_respelled respelled]

end Feed

end LeaseRoster
