import LeaseRoster.History.Cell
import LeaseRoster.Notice

/-!
# Rows of the history table

A row has four cells: the hardware address, the name, the time of the last
sighting and the number of the server run.  The first three columns are columns of
texts, the last one is a column of integers.  Other programs may write to the table,
so a row need not make a sighting.
-/

namespace LeaseRoster

/-- A row of the history table. -/
structure Row where
  mac : Cell
  hostname : Cell
  lastSeen : Cell
  epoch : Cell
deriving DecidableEq

namespace Row

/-- The row that a sighting makes; its moment must have a reading in universal time
and its number fit a word. -/
def ofSighting (mac : MacAddress) (hostname : Cell) (lastSeen : List Char)
    (epoch : Int) : Row :=
  ⟨.text mac.toString, hostname.inTextColumn, .text (String.ofList lastSeen),
    .integer epoch⟩

/-- The row that raw values make.  The last two must not be null. -/
def ofData (mac hostname lastSeen epoch : Datum) : Except Fault Row := do
  let row : Row :=
    ⟨(← Cell.ofDatum mac).inTextColumn, (← Cell.ofDatum hostname).inTextColumn,
      (← Cell.ofDatum lastSeen).inTextColumn, (← Cell.ofDatum epoch).inIntegerColumn⟩
  if row.lastSeen = .null ∨ row.epoch = .null then throw .constraint
  return row

def columns (row : Row) : List (String × Cell) :=
  [("mac_addr", row.mac), ("hostname", row.hostname), ("last_seen", row.lastSeen),
    ("generation_epoch", row.epoch)]

/-- Why a row cannot be fetched: the first text in it that is not UTF-8. -/
def garbled? (row : Row) : Option HistoryCause :=
  row.columns.findSome? fun (column, cell) => cell.garbled?.map (.garbledText column)

/-- The value unless it counts as nothing, and otherwise another one. -/
def orElse (datum other : Datum) : Datum := if datum.isTruthy then datum else other

def momentOf : Cell → Except Fault Moment
  | .text value =>
    match Moment.readStored? value.toList with
    | some moment => .ok moment
    | none => .error (.value .unreadableMoment)
  | _ => .error .wrongKind

def sighting (row : Row) : Except Fault Sighting := do
  let lastSeen ← momentOf row.lastSeen
  (Sighting.fields (.mapping
    [(.text "mac", row.mac.toDatum),
     (.text "hostname", orElse row.hostname.toDatum (.text "")),
     (.text "last_seen", .moment lastSeen),
     (.text "generation_epoch", orElse row.epoch.toDatum (.whole 0))])).result

/-- The notice that a row is passed over, if it makes no sighting. -/
def notices (row : Row) : List Notice :=
  match row.sighting with
  | .ok _ => []
  | .error fault => [.rowSkipped row.mac.toDatum fault]

def sighting? (row : Row) : Option Sighting := row.sighting.toOption

end Row

end LeaseRoster
