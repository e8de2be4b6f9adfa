import LeaseRoster.History.Row

/-!
# The history store

The store keeps one row for every hardware address, in the order of first
insertion.  An upsert replaces the row of its address in place; a purge removes what
was last seen before a cutoff, and rows that make no sighting.  An operation that
fails leaves the rows as they are.  A garbled text in one row fails every scan of the
table, and a query for that row.
-/

namespace LeaseRoster

/-- The history of all clients. -/
structure History where
  path : String
  rows : List Row
  isOpen : Bool

namespace History

def memoryPath : String := ":memory:"

def create (path : String) : History := ⟨path, [], true⟩

/-- The store at a path, at which a directory may stand. -/
def opened (path : String) (isDirectory : Bool) : Except Fault History :=
  if isDirectory then .error (.history (.opening path) .cannotOpen)
  else .ok (create path)

def hasKey (key : Cell) (row : Row) : Bool := row.mac == key && key != .null

/-- Rows with one put under its key: in the place of the present one or at the
end. -/
def putRow (row : Row) : List Row → List Row
  | [] => [row]
  | present :: rest =>
    if hasKey row.mac present then row :: rest else present :: putRow row rest

def withRows (history : History) (rows : List Row) : History := { history with rows }

/-- Whether a task can be done at all. -/
def whenOpen (history : History) (task : HistoryTask) : Except Fault Unit :=
  if history.isOpen then .ok () else .error (.history task .closed)

/-- The integer that a value stands for when one is asked for: a number is cut to its
whole part. -/
def toInteger : Datum → Except Fault Int
  | .whole value => .ok value
  | .flag value => .ok (if value then 1 else 0)
  | .real (.finite negative units) =>
    .ok (Binary64.signedUnits negative (Binary64.wholePart units))
  | .real (.infinite _) => .error .beyondRange
  | .real .notANumber => .error (.value .unreadableNumber)
  | .text value =>
    match Text.readInt value.toList with
    | .ok number => .ok number
    | .error fault => .error (.value (.numeral fault))
  | _ => .error .wrongKind

/-- The name of the kind of a value that no cell can hold. -/
def unsupportedKind? : Datum → Option String
  | .list _ => some "list"
  | .pair _ _ => some "tuple"
  | .set _ => some "set"
  | .mapping _ => some "dict"
  | .knot _ body => unsupportedKind? body
  | _ => none

/-- The cell of a name that is to be kept. -/
def hostnameCell (mac : String) (hostname : Datum) : Except Fault Cell :=
  match unsupportedKind? hostname with
  | some kind => .error (.history (.upserting mac) (.unsupportedValue 2 kind))
  | none => Cell.ofDatum hostname

/-! ## Writing -/

def put (history : History) (mac : MacAddress) (hostname : String)
    (lastSeen : Moment) (epoch : Int) : Except Fault History := do
  let some stored := lastSeen.storedText? | throw .beyondRange
  history.whenOpen (.upserting mac.toString)
  let cell ← Cell.ofText hostname
  if !fitsWord epoch then throw .beyondRange
  return history.withRows (putRow (Row.ofSighting mac cell stored epoch) history.rows)

def storedTime : Datum → Except Fault (List Char)
  | .moment value =>
    match value.storedText? with
    | some stored => .ok stored
    | none => .error .beyondRange
  | _ => .error .foreignValue

/-- Puts a sighting given by raw values into the store.  The address is read first,
then the time, then the number; only then is the store asked. -/
def upsert (history : History) (mac hostname lastSeen epoch : Datum) :
    Except Fault History := do
  let address ← Field.readMac mac
  let stored ← storedTime lastSeen
  let number ← toInteger epoch
  let shown := String.ofList mac.plain
  history.whenOpen (.upserting shown)
  let cell ← hostnameCell shown (Row.orElse hostname (.text ""))
  if !fitsWord number then throw .beyondRange
  return history.withRows
    (putRow (Row.ofSighting address cell stored number) history.rows)

/-- Adds a row of raw values.  Two rows never share an address. -/
def insertRow (history : History) (mac hostname lastSeen epoch : Datum) :
    Except Fault History := do
  if !history.isOpen then throw .misuse
  let row ← Row.ofData mac hostname lastSeen epoch
  if history.rows.any (hasKey row.mac) then throw .constraint
  return history.withRows (history.rows ++ [row])

/-! ## Reading -/

/-- What a reading finds, and the notices about rows passed over. -/
structure Found (α : Type) where
  value : α
  notices : List Notice

def listRows (history : History) : Except Fault (List Row) :=
  if history.isOpen then .ok history.rows else .error .misuse

/-- Why the rows cannot be scanned, if they cannot. -/
def scanCause? (history : History) : Option HistoryCause :=
  if history.isOpen then history.rows.findSome? Row.garbled? else some .closed

def scan (history : History) (task : HistoryTask) : Except Fault (List Row) :=
  match history.scanCause? with
  | some cause => .error (.history task cause)
  | none => .ok history.rows

def fetchAll (history : History) : Except Fault (Found (List Sighting)) := do
  let rows ← history.scan .scanning
  return ⟨rows.filterMap Row.sighting?, rows.flatMap Row.notices⟩

def get (history : History) (mac : Datum) : Except Fault (Found (Option Sighting)) := do
  let address ← Field.readMac mac
  let task := HistoryTask.querying (String.ofList mac.plain)
  history.whenOpen task
  match history.rows.find? (hasKey (.text address.toString)) with
  | none => return ⟨none, []⟩
  | some row =>
    match row.garbled? with
    | some cause => throw (.history task cause)
    | none => return ⟨row.sighting?, row.notices⟩

/-! ## Purging -/

def asksForPurge (retention : Option Duration) : Bool :=
  retention.any fun duration => 0 < duration.micros

def isBefore (cutoff : Int) (row : Row) : Bool :=
  row.sighting?.any fun sighting => sighting.lastSeen.instant < cutoff

/-- Whether a row makes a sighting at a cutoff or later. -/
def isKept (cutoff : Int) (row : Row) : Bool :=
  row.sighting?.any fun sighting => cutoff ≤ sighting.lastSeen.instant

def dropNotices (row : Row) : List Notice :=
  match row.sighting with
  | .ok _ => []
  | .error fault =>
    [.rowSkipped row.mac.toDatum fault, .rowDropped row.mac.toDatum]

/-- What a purge leaves and what it removes. -/
structure Purged where
  history : History
  removed : List Sighting
  notices : List Notice

/-- Removes what was last seen before a cutoff, and rows that make no sighting. -/
def purgeBefore (history : History) (cutoff : Int) : Purged where
  history := history.withRows (history.rows.filter (isKept cutoff))
  removed := (history.rows.filter (isBefore cutoff)).filterMap Row.sighting?
  notices := history.rows.flatMap dropNotices

/-- Removes what was last seen longer ago than a retention.  Without one that is
positive nothing happens. -/
def purgeOlderThan (history : History) (retention : Option Duration) (now : Moment) :
    Except Fault Purged :=
  match retention with
  | none => .ok ⟨history, [], []⟩
  | some duration =>
    if duration.micros ≤ 0 then .ok ⟨history, [], []⟩
    else
      match now.minus? duration with
      | none => .error .beyondRange
      | some cutoff => do
        let rows ← history.scan .purging
        return (history.withRows rows).purgeBefore cutoff.instant

/-! ## Opening and closing -/

def close (history : History) : History := { history with isOpen := false }

/-- The store opened again: a file still has its rows, memory has none. -/
def reopen (history : History) : History :=
  if history.path == memoryPath then create history.path
  else { history with isOpen := true }

@[simp] theorem rows_withRows (history : History) (rows : List Row) :
    (history.withRows rows).rows = rows := rfl

@[simp] theorem isOpen_withRows (history : History) (rows : List Row) :
    (history.withRows rows).isOpen = history.isOpen := rfl

@[simp] theorem withRows_rows (history : History) : history.withRows history.rows = history := rfl

theorem scan_eq_ok_iff (history : History) (task : HistoryTask) (rows : List Row) :
    history.scan task = .ok rows ↔ history.scanCause? = none ∧ history.rows = rows := by
  unfold scan
  cases history.scanCause? <;> simp

theorem fetchAll_eq (history : History) :
    history.fetchAll =
      match history.scanCause? with
      | some cause => .error (.history .scanning cause)
      | none =>
        .ok ⟨history.rows.filterMap Row.sighting?, history.rows.flatMap Row.notices⟩ := by
  unfold fetchAll scan
  cases history.scanCause? <;> rfl

/-- A purge with a positive retention that the calendar reaches back by needs only that the rows
can be scanned. -/
theorem purgeOlderThan_eq (history : History) {retention : Duration}
    (positive : 0 < retention.micros) {now cutoff : Moment}
    (reached : now.minus? retention = some cutoff) :
    history.purgeOlderThan (some retention) now =
      match history.scanCause? with
      | some cause => .error (.history .purging cause)
      | none => .ok (history.purgeBefore cutoff.instant) := by
  simp only [purgeOlderThan, scan, if_neg (Int.not_le.mpr positive), reached]
  cases history.scanCause? <;> rfl

theorem scanCause?_eq_none_iff (history : History) :
    history.scanCause? = none ↔
      history.isOpen = true ∧ ∀ row ∈ history.rows, row.garbled? = none := by
  unfold scanCause?
  cases history.isOpen <;> simp [List.findSome?_eq_none_iff]

end History

end LeaseRoster
