import LeaseRoster.Proofs.IndexKeys
import LeaseRoster.Proofs.ReadableRows
import LeaseRoster.Proofs.StoredMoments
import Mathlib.Data.List.Forall2

/-!
# The history as a ledger

A ledger gives each hardware address a name, an instant and a number of a server run,
and keeps the order in which the addresses first came.  A history that was only written
to by upserts and purges mirrors a ledger: its rows stand for the entries one by one, in
the same order, under distinct written forms of the addresses.
-/

namespace LeaseRoster

/-- What a ledger says about a hardware address. -/
structure LedgerEntry where
  hostname : String
  instant : Int
  epoch : Int
deriving DecidableEq

/-- Entries by hardware address, in the order in which the addresses first came. -/
abbrev Ledger := Index MacAddress LedgerEntry

/-- The ledger without the entries from before a cutoff. -/
def Ledger.forget (ledger : Ledger) (cutoff : Int) : Ledger :=
  ⟨ledger.entries.filter fun held => cutoff ≤ held.2.instant⟩

theorem Ledger.nodup_keys_forget {ledger : Ledger} (distinct : ledger.keys.Nodup)
    (cutoff : Int) : (ledger.forget cutoff).keys.Nodup :=
  distinct.sublist (List.filter_sublist.map Prod.fst)

/-- An address keeps its entry unless the entry is from before the cutoff. -/
theorem Ledger.find?_forget {ledger : Ledger} (distinct : ledger.keys.Nodup) (cutoff : Int)
    (mac : MacAddress) :
    (ledger.forget cutoff).find? mac =
      (ledger.find? mac).filter fun entry => cutoff ≤ entry.instant := by
  apply Option.ext
  intro entry
  rw [Index.find?_eq_some_iff (nodup_keys_forget distinct cutoff), Option.filter_eq_some_iff,
    Index.find?_eq_some_iff distinct]
  simp [forget]

/-- What is kept after a cutoff are the addresses whose entries are not older. -/
theorem Ledger.mem_keys_forget_iff {ledger : Ledger} (distinct : ledger.keys.Nodup)
    (cutoff : Int) (mac : MacAddress) :
    mac ∈ (ledger.forget cutoff).keys ↔ mac ∈ ledger.keys ∧
      mac ∉ (ledger.entries.filter fun held => held.2.instant < cutoff).map Prod.fst := by
  simp only [forget, Index.keys, List.mem_map, List.mem_filter, decide_eq_true_eq]
  constructor
  · rintro ⟨held, ⟨member, late⟩, rfl⟩
    refine ⟨⟨held, member, rfl⟩, ?_⟩
    rintro ⟨other, ⟨present, early⟩, same⟩
    obtain rfl := List.inj_on_of_nodup_map distinct present member same
    omega
  · rintro ⟨⟨held, member, rfl⟩, notEarly⟩
    refine ⟨held, ⟨member, ?_⟩, rfl⟩
    by_contra early
    exact notEarly ⟨held, ⟨member, by omega⟩, rfl⟩

/-- A sighting as an entry under its hardware address. -/
def Sighting.keyed (sighting : Sighting) : MacAddress × LedgerEntry :=
  (sighting.mac, ⟨sighting.hostname, sighting.lastSeen.instant, sighting.epoch⟩)

theorem Sighting.macs_keyed (sightings : List Sighting) :
    (sightings.map keyed).map Prod.fst = sightings.map Sighting.mac := by
  rw [List.map_map]
  rfl

/-- Fields that hold what they are asked for make a sighting. -/
theorem Sighting.fields_written (mac : MacAddress) (hostname : String) (lastSeen : Moment)
    (epoch : Int) :
    fields (.mapping
      [(.text "mac", .text mac.toString), (.text "hostname", .text hostname),
       (.text "last_seen", .moment lastSeen), (.text "generation_epoch", .whole epoch)]) =
      .accepted ⟨mac, hostname, lastSeen, epoch⟩ := by
  have address : Field.mac (.text mac.toString) = .accepted mac := by
    rw [Field.mac, Field.readMac_toString]
    rfl
  have name : Field.text (.text hostname) = .accepted hostname := rfl
  have moment : Field.moment (.moment lastSeen) = .accepted lastSeen := rfl
  have number : Field.integer (.whole epoch) = .accepted epoch := rfl
  simp only [fields, Field.required, Field.withDefault, Datum.get?, Datum.untied,
    Datum.isText, List.find?_cons, String.reduceBEq, Option.map_some, address, name, moment,
    number, Checked.inside]
  rfl

namespace Row

/-- A row stands for an entry: it is keyed by the written form of the address and makes a
sighting that says what the entry says. -/
def Holds (row : Row) (held : MacAddress × LedgerEntry) : Prop :=
  row.mac = .text held.1.toString ∧
    ∃ sighting, row.sighting = .ok sighting ∧ sighting.keyed = held

/-- The row that a sighting makes is read back as that sighting, in universal time. -/
theorem sighting_ofSighting (mac : MacAddress) (hostname : String) {lastSeen universal : Moment}
    {stored : List Char} (epoch : Int) (converted : lastSeen.toUniversal? = some universal)
    (written : lastSeen.storedText? = some stored) :
    (ofSighting mac (.text hostname) stored epoch).sighting =
      .ok ⟨mac, hostname, universal, epoch⟩ := by
  obtain ⟨text, textWritten, read⟩ := Moment.readStored?_storedText converted
  obtain rfl : stored = text := Option.some.inj (written.symm.trans textWritten)
  have name : orElse (.text hostname) (.text "") = .text hostname := by
    by_cases empty : hostname = "" <;> simp [orElse, Datum.isTruthy, empty]
  have number : orElse (.whole epoch) (.whole 0) = .whole epoch := by
    by_cases zero : epoch = 0 <;> simp [orElse, Datum.isTruthy, zero]
  have moment : momentOf (ofSighting mac (.text hostname) stored epoch).lastSeen =
      .ok universal := by
    simp [momentOf, ofSighting, read]
  rw [sighting, moment]
  simp only [ofSighting, Cell.inTextColumn, Cell.toDatum, name, number]
  exact congrArg Checked.result (Sighting.fields_written mac hostname universal epoch)

theorem holds_ofSighting (mac : MacAddress) (hostname : String) {lastSeen universal : Moment}
    {stored : List Char} (epoch : Int) (converted : lastSeen.toUniversal? = some universal)
    (written : lastSeen.storedText? = some stored) :
    (ofSighting mac (.text hostname) stored epoch).Holds
      (mac, ⟨hostname, lastSeen.instant, epoch⟩) := by
  refine ⟨rfl, _, sighting_ofSighting mac hostname epoch converted written, ?_⟩
  rw [Sighting.keyed, Moment.instant_of_toUniversal? converted]

section Holds

variable {row : Row} {held : MacAddress × LedgerEntry} (holds : row.Holds held)
include holds

theorem Holds.hasKey_eq (mac : MacAddress) :
    History.hasKey (.text mac.toString) row = decide (held.1 = mac) := by
  by_cases same : held.1 = mac
  · simp [History.hasKey, holds.1, same]
  · have different : Cell.text held.1.toString ≠ Cell.text mac.toString := by
      intro equal
      exact same (MacAddress.toString_injective (Cell.text.inj equal))
    simp [History.hasKey, holds.1, same, different]

theorem Holds.sighting?_eq : ∃ sighting, row.sighting? = some sighting ∧
    sighting.keyed = held := by
  obtain ⟨sighting, made, keyed⟩ := holds.2
  exact ⟨sighting, by rw [sighting?, made]; rfl, keyed⟩

theorem Holds.garbled?_eq : row.garbled? = none := by
  obtain ⟨sighting, made, -⟩ := holds.sighting?_eq
  exact Row.garbled?_of_sighting? made

theorem Holds.notices_eq : row.notices = [] := by
  obtain ⟨sighting, made, _⟩ := holds.2
  rw [notices, made]

theorem Holds.isKept_eq (cutoff : Int) :
    History.isKept cutoff row = decide (cutoff ≤ held.2.instant) := by
  obtain ⟨sighting, made, rfl⟩ := holds.sighting?_eq
  rw [History.isKept, made, Option.any_some]
  rfl

theorem Holds.isBefore_eq (cutoff : Int) :
    History.isBefore cutoff row = decide (held.2.instant < cutoff) := by
  obtain ⟨sighting, made, rfl⟩ := holds.sighting?_eq
  rw [History.isBefore, made, Option.any_some]
  rfl

end Holds

end Row

namespace History

/-! ## Rows and entries -/

section Rows

variable {rows : List Row} {entries : List (MacAddress × LedgerEntry)}

theorem forall₂_putRow (mirrored : List.Forall₂ Row.Holds rows entries) {row : Row}
    {mac : MacAddress} {entry : LedgerEntry} (holds : row.Holds (mac, entry)) :
    List.Forall₂ Row.Holds (putRow row rows) (Index.insertIn mac entry entries) := by
  induction mirrored with
  | nil => exact .cons holds .nil
  | @cons present held rest others head tail ih =>
    have key : hasKey row.mac present = decide (held.1 = mac) := by
      rw [holds.1]
      exact head.hasKey_eq mac
    by_cases same : held.1 = mac
    · simp only [putRow, Index.insertIn, key, same, decide_true, if_true]
      exact .cons holds tail
    · simp only [putRow, Index.insertIn, key, same, decide_false, Bool.false_eq_true, if_false]
      exact .cons head ih

theorem forall₂_filter (mirrored : List.Forall₂ Row.Holds rows entries) {keepsRow : Row → Bool}
    {keeps : MacAddress × LedgerEntry → Bool}
    (agrees : ∀ row held, row.Holds held → keepsRow row = keeps held) :
    List.Forall₂ Row.Holds (rows.filter keepsRow) (entries.filter keeps) := by
  induction mirrored with
  | nil => exact .nil
  | @cons row held rest others head tail ih =>
    rw [List.filter_cons, List.filter_cons, agrees row held head]
    cases keeps held with
    | false => exact ih
    | true => exact .cons head ih

theorem map_keyed_filterMap (mirrored : List.Forall₂ Row.Holds rows entries) :
    (rows.filterMap Row.sighting?).map Sighting.keyed = entries := by
  induction mirrored with
  | nil => rfl
  | cons head tail ih =>
    obtain ⟨sighting, made, rfl⟩ := head.sighting?_eq
    simp [made, ih]

theorem length_filterMap_sighting? (mirrored : List.Forall₂ Row.Holds rows entries) :
    (rows.filterMap Row.sighting?).length = rows.length := by
  rw [mirrored.length_eq, ← List.length_map Sighting.keyed, map_keyed_filterMap mirrored]

theorem flatMap_notices (mirrored : List.Forall₂ Row.Holds rows entries) :
    rows.flatMap Row.notices = [] := by
  induction mirrored with
  | nil => rfl
  | cons head tail ih => simp [head.notices_eq, ih]

theorem map_mac (mirrored : List.Forall₂ Row.Holds rows entries) :
    rows.map Row.mac = (entries.map Prod.fst).map fun mac => Cell.text mac.toString := by
  induction mirrored with
  | nil => rfl
  | cons head tail ih => simp [head.1, ih]

/-- The row under the written form of an address stands for the entry of the address. -/
theorem garbled?_of_mem (mirrored : List.Forall₂ Row.Holds rows entries) :
    ∀ row ∈ rows, row.garbled? = none := by
  induction mirrored with
  | nil => exact List.forall_mem_nil _
  | cons head _ ih => exact List.forall_mem_cons.mpr ⟨head.garbled?_eq, ih⟩

theorem find?_hasKey (mirrored : List.Forall₂ Row.Holds rows entries) (mac : MacAddress) :
    match rows.find? (hasKey (.text mac.toString)), Index.findIn mac entries with
    | some row, some entry => row.Holds (mac, entry)
    | none, none => True
    | _, _ => False := by
  induction mirrored with
  | nil => trivial
  | @cons row held rest others head tail ih =>
    rw [List.find?_cons, head.hasKey_eq mac, Index.findIn]
    by_cases same : held.1 = mac
    · subst same
      simpa using head
    · simpa [same] using ih

end Rows

/-- A purge that goes through either does nothing or removes what is before a cutoff. -/
theorem purgeOlderThan_cases {history : History} {retention : Option Duration} {now : Moment}
    {purged : Purged} (purges : history.purgeOlderThan retention now = .ok purged) :
    purged = ⟨history, [], []⟩ ∨ ∃ cutoff, purged = history.purgeBefore cutoff := by
  unfold purgeOlderThan at purges
  split at purges
  · exact Or.inl (Except.ok.inj purges).symm
  · split at purges
    · exact Or.inl (Except.ok.inj purges).symm
    · split at purges
      · cases purges
      · rename_i cutoff _
        cases fetched : history.scan .purging with
        | error fault => simp [fetched, bind, Except.bind] at purges
        | ok rows =>
          obtain ⟨-, rfl⟩ := (history.scan_eq_ok_iff _ _).mp fetched
          simp only [fetched, bind, Except.bind, pure, Except.pure, withRows_rows] at purges
          exact Or.inr ⟨cutoff.instant, (Except.ok.inj purges).symm⟩

/-! ## Whole histories -/

/-- Whether a history has a row for a hardware address. -/
def Knows (history : History) (mac : MacAddress) : Prop :=
  Cell.text mac.toString ∈ history.rows.map Row.mac

/-- A history mirrors a ledger: it can be used, its rows stand for the entries one by one,
and no two of them have one address. -/
structure Mirrors (history : History) (ledger : Ledger) : Prop where
  usable : history.isOpen = true
  rows : List.Forall₂ Row.Holds history.rows ledger.entries
  distinct : ledger.keys.Nodup

theorem mirrors_create (path : String) : (create path).Mirrors Index.empty :=
  ⟨rfl, .nil, List.nodup_nil⟩

section Mirrors

variable {history : History} {ledger : Ledger} (mirrors : history.Mirrors ledger)
include mirrors

/-- Writing a row enters what it stands for. -/
theorem Mirrors.putRow {row : Row} {mac : MacAddress} {entry : LedgerEntry}
    (holds : row.Holds (mac, entry)) :
    (history.withRows (putRow row history.rows)).Mirrors (ledger.insert mac entry) :=
  ⟨mirrors.usable, forall₂_putRow mirrors.rows holds,
    Index.nodup_keys_insert mirrors.distinct mac entry⟩

/-- A purge forgets the entries from before its cutoff. -/
theorem Mirrors.purgeBefore (cutoff : Int) :
    (history.purgeBefore cutoff).history.Mirrors (ledger.forget cutoff) :=
  ⟨mirrors.usable, forall₂_filter mirrors.rows fun _ _ holds => holds.isKept_eq cutoff,
    Ledger.nodup_keys_forget mirrors.distinct cutoff⟩

theorem Mirrors.keyed_removed (cutoff : Int) :
    (history.purgeBefore cutoff).removed.map Sighting.keyed =
      ledger.entries.filter fun held => held.2.instant < cutoff :=
  map_keyed_filterMap
    (forall₂_filter mirrors.rows fun _ _ holds => holds.isBefore_eq cutoff)

theorem Mirrors.knows_iff (mac : MacAddress) : history.Knows mac ↔ mac ∈ ledger.keys := by
  rw [Knows, map_mac mirrors.rows, List.mem_map]
  constructor
  · rintro ⟨held, present, same⟩
    rwa [← MacAddress.toString_injective (Cell.text.inj same)]
  · intro present
    exact ⟨mac, present, rfl⟩

theorem Mirrors.whenOpen_eq (task : HistoryTask) : history.whenOpen task = .ok () := by
  rw [whenOpen, if_pos mirrors.usable]

/-- Rows that stand for entries have no garbled texts. -/
theorem Mirrors.scanCause?_eq : history.scanCause? = none :=
  history.scanCause?_eq_none_iff.mpr ⟨mirrors.usable, garbled?_of_mem mirrors.rows⟩

theorem Mirrors.scan_eq (task : HistoryTask) : history.scan task = .ok history.rows :=
  (history.scan_eq_ok_iff task history.rows).mpr ⟨mirrors.scanCause?_eq, rfl⟩

/-- A purge keeps exactly the addresses that it does not remove, with their entries. -/
theorem Mirrors.purged {retention : Option Duration} {now : Moment} {purged : Purged}
    (purges : history.purgeOlderThan retention now = .ok purged) :
    ∃ next, purged.history.Mirrors next ∧
      (∀ mac, mac ∈ next.keys ↔ mac ∈ ledger.keys ∧ mac ∉ purged.removed.map Sighting.mac) ∧
      ∀ mac entry, next.find? mac = some entry → ledger.find? mac = some entry := by
  obtain rfl | ⟨cutoff, rfl⟩ := purgeOlderThan_cases purges
  · exact ⟨ledger, mirrors, by simp, fun _ _ => id⟩
  · refine ⟨_, mirrors.purgeBefore cutoff, fun mac => ?_, fun mac entry found => ?_⟩
    · rw [← Sighting.macs_keyed, mirrors.keyed_removed]
      exact Ledger.mem_keys_forget_iff mirrors.distinct cutoff mac
    · rw [Ledger.find?_forget mirrors.distinct, Option.filter_eq_some_iff] at found
      exact found.1

/-- A scan lists the entries in their order and passes no row over. -/
theorem Mirrors.fetchAll_eq :
    history.fetchAll = .ok ⟨history.rows.filterMap Row.sighting?, []⟩ ∧
      (history.rows.filterMap Row.sighting?).map Sighting.keyed = ledger.entries := by
  refine ⟨?_, map_keyed_filterMap mirrors.rows⟩
  simp only [fetchAll, mirrors.scan_eq, bind, Except.bind, flatMap_notices mirrors.rows]
  rfl

/-- A question for any spelling of an address is answered with its entry. -/
theorem Mirrors.get_eq {spelled : String} {mac : MacAddress}
    (read : MacAddress.read? spelled.toList = some mac) :
    ∃ found, history.get (.text spelled) = .ok ⟨found, []⟩ ∧
      found.map Sighting.keyed = (ledger.find? mac).map (Prod.mk mac) := by
  have asked : Field.readMac (.text spelled) = .ok mac := by
    rw [Field.readMac_text, read]
  have row := find?_hasKey mirrors.rows mac
  rw [get, asked]
  simp only [bind, Except.bind, mirrors.whenOpen_eq]
  cases present : history.rows.find? (hasKey (.text mac.toString)) with
  | none =>
    cases known : ledger.find? mac with
    | none => exact ⟨none, rfl, rfl⟩
    | some entry =>
      rw [present, show Index.findIn mac ledger.entries = some entry from known] at row
      exact row.elim
  | some row =>
    rename_i held
    cases known : ledger.find? mac with
    | none =>
      rw [present, show Index.findIn mac ledger.entries = none from known] at held
      exact held.elim
    | some entry =>
      rw [present, show Index.findIn mac ledger.entries = some entry from known] at held
      obtain ⟨sighting, made, keyed⟩ := held.sighting?_eq
      refine ⟨some sighting, ?_, ?_⟩
      · simp only [Row.Holds.garbled?_eq held, made, Row.Holds.notices_eq held]
        rfl
      · simp [keyed]

end Mirrors

end History

end LeaseRoster
