import LeaseRoster.Proofs.HistoryLedger
import Mathlib.Data.List.Induction

/-!
# Runs of upserts and purges

A run of calls on a new history is a run of the same calls on an empty ledger.  The
ledger says what a call is about: an upsert enters the address that its text spells, a
purge forgets what is older than its cutoff, and a call that the history refuses changes
nothing.
-/

namespace LeaseRoster

namespace History

/-- A call that writes to the history.  The name of an upsert may be left out, and its
time may come without a distance from universal time. -/
inductive Call
  | upsert (mac : String) (hostname : Option String) (lastSeen : Moment) (epoch : Int)
  | purge (retention : Option Duration) (now : Moment)

namespace Call

/-- Makes a call. -/
def perform (history : History) : Call → Except Fault History
  | .upsert mac hostname lastSeen epoch =>
    history.upsert (.text mac) ((hostname.map Datum.text).getD .null) (.moment lastSeen)
      (.whole epoch)
  | .purge retention now => (history.purgeOlderThan retention now).map Purged.history

/-- The history that a call leaves behind, whether it goes through or not. -/
def after (history : History) (call : Call) : History :=
  match call.perform history with
  | .ok next => next
  | .error _ => history

/-- The history that some calls leave behind. -/
def runAll (history : History) (calls : List Call) : History := calls.foldl after history

/-! ## What calls mean -/

/-- What an upsert enters: nothing if the text spells no address, if the time has no
reading in universal time, if the number does not fit a word, or if the name has no
UTF-8 form. -/
def entered? : Call → Option (MacAddress × LedgerEntry)
  | .upsert mac hostname lastSeen epoch =>
    (MacAddress.read? mac.toList).bind fun address =>
      if lastSeen.toUniversal?.isSome && fitsWord epoch &&
          Text.isEncodable (hostname.getD "").toList then
        some (address, ⟨hostname.getD "", lastSeen.instant, epoch⟩)
      else none
  | .purge _ _ => none

/-- What a call does to a ledger, none if it is refused.  A purge without a positive
retention does nothing, and one whose cutoff lies beyond the calendar is refused. -/
def enter? (ledger : Ledger) (call : Call) : Option Ledger :=
  match call with
  | .upsert _ _ _ _ => call.entered?.map fun held => ledger.insert held.1 held.2
  | .purge none _ => some ledger
  | .purge (some retention) now =>
    if retention.micros ≤ 0 then some ledger
    else (now.minus? retention).map fun cutoff => ledger.forget cutoff.instant

/-- The ledger behind a call; a refused one leaves it alone. -/
def enter (ledger : Ledger) (call : Call) : Ledger := (call.enter? ledger).getD ledger

/-- The ledger of some calls. -/
def ledgerOf (calls : List Call) : Ledger := calls.foldl enter Index.empty

/-- What the last upsert of an address that went through says. -/
def lastEntered? (mac : MacAddress) (calls : List Call) : Option LedgerEntry :=
  ((calls.filterMap entered?).reverse.find? fun held => held.1 = mac).map Prod.snd

end Call

/-! ## One call -/

section Step

variable {history : History} {ledger : Ledger} (mirrors : history.Mirrors ledger)
include mirrors

/-- An upsert goes through exactly if it enters something. -/
theorem Mirrors.upsert_eq (mac : String) (hostname : Option String) (lastSeen : Moment)
    (epoch : Int) :
    match (Call.upsert mac hostname lastSeen epoch).entered? with
    | some held => ∃ row, row.Holds held ∧
        (Call.upsert mac hostname lastSeen epoch).perform history =
          .ok (history.withRows (History.putRow row history.rows))
    | none => ∃ fault, (Call.upsert mac hostname lastSeen epoch).perform history =
        .error fault := by
  have name : Row.orElse ((hostname.map Datum.text).getD .null) (.text "") =
      .text (hostname.getD "") := by
    cases hostname with
    | none => rfl
    | some hostname =>
      by_cases empty : hostname = "" <;> simp [Row.orElse, Datum.isTruthy, empty]
  cases read : MacAddress.read? mac.toList with
  | none =>
    simp [Call.entered?, Call.perform, upsert, Field.readMac_text, read, bind, Except.bind]
  | some address =>
    cases converted : lastSeen.toUniversal? with
    | none =>
      simp [Call.entered?, Call.perform, upsert, Field.readMac_text, read, converted,
        storedTime, Moment.storedText?, bind, Except.bind]
    | some universal =>
      obtain ⟨stored, written, _⟩ := Moment.readStored?_storedText converted
      cases encodable : Text.isEncodable (hostname.getD "").toList with
      | false =>
        simp [Call.entered?, Call.perform, upsert, Field.readMac_text, read, converted, name,
          written, storedTime, toInteger, mirrors.whenOpen_eq, hostnameCell,
          unsupportedKind?, Cell.ofDatum, Cell.ofText, encodable, bind, Except.bind]
      | true =>
        cases fits : fitsWord epoch with
        | false =>
          simp [Call.entered?, Call.perform, upsert, Field.readMac_text, read, converted,
            name, written, storedTime, toInteger, mirrors.whenOpen_eq, hostnameCell,
            unsupportedKind?, Cell.ofDatum, Cell.ofText, encodable, fits, bind, Except.bind,
            throw, throwThe, MonadExceptOf.throw]
        | true =>
          have holds := Row.holds_ofSighting address (hostname.getD "") epoch converted written
          simp only [Call.entered?, read, converted, encodable, fits, Option.bind_some,
            Option.isSome_some, Bool.and_true, if_true]
          refine ⟨_, holds, ?_⟩
          simp [Call.perform, upsert, Field.readMac_text, read, name, written, storedTime,
            toInteger, mirrors.whenOpen_eq, hostnameCell, unsupportedKind?, Cell.ofDatum,
            Cell.ofText, encodable, fits, bind, Except.bind, pure, Except.pure]

/-- A call does to the history what it does to the ledger, and is refused by both or by
neither. -/
theorem Mirrors.perform (call : Call) :
    match call.enter? ledger with
    | some next => ∃ changed, call.perform history = .ok changed ∧ changed.Mirrors next
    | none => ∃ fault, call.perform history = .error fault := by
  cases call with
  | upsert mac hostname lastSeen epoch =>
    have upserted := mirrors.upsert_eq mac hostname lastSeen epoch
    unfold Call.enter?
    cases entered : (Call.upsert mac hostname lastSeen epoch).entered? with
    | none =>
      rw [entered] at upserted
      exact upserted
    | some held =>
      rw [entered] at upserted
      obtain ⟨row, holds, performed⟩ := upserted
      exact ⟨_, performed, mirrors.putRow holds⟩
  | purge retention now =>
    cases retention with
    | none => exact ⟨history, rfl, mirrors⟩
    | some retention =>
      by_cases idle : retention.micros ≤ 0
      · simp only [Call.enter?, if_pos idle]
        exact ⟨history, by simp [Call.perform, purgeOlderThan, idle, Except.map], mirrors⟩
      · simp only [Call.enter?, if_neg idle]
        cases reached : now.minus? retention with
        | none => exact ⟨.beyondRange, by
            simp [Call.perform, purgeOlderThan, idle, reached, Except.map]⟩
        | some cutoff =>
          refine ⟨_, ?_, mirrors.purgeBefore cutoff.instant⟩
          simp [Call.perform, purgeOlderThan, idle, reached, mirrors.scan_eq, Except.map,
            bind, Except.bind, pure, Except.pure]

theorem Mirrors.after (call : Call) :
    (call.after history).Mirrors (call.enter ledger) := by
  have performed := mirrors.perform call
  unfold Call.after Call.enter
  cases entered : call.enter? ledger with
  | none =>
    rw [entered] at performed
    obtain ⟨fault, refused⟩ := performed
    rw [refused]
    exact mirrors
  | some next =>
    rw [entered] at performed
    obtain ⟨changed, done, mirrored⟩ := performed
    rw [done]
    exact mirrored

/-- A call is refused by the history exactly if it is refused by the ledger. -/
theorem Mirrors.refused_iff (call : Call) :
    (∃ fault, call.perform history = .error fault) ↔ call.enter? ledger = none := by
  have performed := mirrors.perform call
  cases entered : call.enter? ledger with
  | none =>
    rw [entered] at performed
    exact iff_of_true performed rfl
  | some next =>
    rw [entered] at performed
    obtain ⟨changed, done, _⟩ := performed
    simp [done]

end Step

/-! ## Runs -/

theorem mirrors_runAll (path : String) (calls : List Call) :
    (Call.runAll (create path) calls).Mirrors (Call.ledgerOf calls) := by
  induction calls using List.reverseRecOn with
  | nil => exact mirrors_create path
  | append_singleton calls last ih =>
    simp only [Call.runAll, Call.ledgerOf, List.foldl_append, List.foldl_cons,
      List.foldl_nil]
    exact ih.after last

/-- A call either enters an entry or leaves no entry that was not there. -/
theorem find?_enter {ledger : Ledger} (distinct : ledger.keys.Nodup) (call : Call)
    {mac : MacAddress} {entry : LedgerEntry}
    (found : (call.enter ledger).find? mac = some entry) :
    call.entered? = some (mac, entry) ∨
      (ledger.find? mac = some entry ∧ ∀ held, call.entered? = some held → held.1 ≠ mac) := by
  cases call with
  | upsert spelled hostname lastSeen epoch =>
    cases entered : (Call.upsert spelled hostname lastSeen epoch).entered? with
    | none =>
      simp only [Call.enter, Call.enter?, entered, Option.map_none, Option.getD_none] at found
      exact Or.inr ⟨found, by simp⟩
    | some held =>
      simp only [Call.enter, Call.enter?, entered, Option.map_some, Option.getD_some,
        Index.find?_insert] at found
      by_cases same : held.1 = mac
      · rw [if_pos same] at found
        left
        rw [← same, ← Option.some.inj found]
      · rw [if_neg same] at found
        exact Or.inr ⟨found, by rintro other ⟨⟩; exact same⟩
  | purge retention now =>
    right
    refine ⟨?_, by simp [Call.entered?]⟩
    cases retention with
    | none => exact found
    | some retention =>
      simp only [Call.enter, Call.enter?] at found
      split at found
      · exact found
      · cases reached : now.minus? retention with
        | none =>
          rw [reached] at found
          exact found
        | some cutoff =>
          rw [reached, Option.map_some, Option.getD_some, Ledger.find?_forget distinct,
            Option.filter_eq_some_iff] at found
          exact found.1

/-- An entry says what the last upsert of its address said. -/
theorem lastEntered?_of_find? (calls : List Call) {mac : MacAddress} {entry : LedgerEntry}
    (found : (Call.ledgerOf calls).find? mac = some entry) :
    Call.lastEntered? mac calls = some entry := by
  induction calls using List.reverseRecOn with
  | nil => cases found
  | append_singleton calls last ih =>
    have distinct := (mirrors_runAll memoryPath calls).distinct
    rw [Call.ledgerOf, List.foldl_append] at found
    simp only [Call.lastEntered?, List.filterMap_append, List.filterMap_cons,
      List.filterMap_nil]
    rcases find?_enter distinct last found with entered | ⟨earlier, other⟩
    · simp [entered]
    · cases entered : last.entered? with
      | none => simpa [Call.lastEntered?] using ih earlier
      | some held => simpa [other held entered, Call.lastEntered?] using ih earlier

/-- Writing a row leaves the rows under other keys as they are, in their order. -/
theorem filter_putRow {row : Row} (own : hasKey row.mac row = true) (rows : List Row) :
    (putRow row rows).filter (fun other => !hasKey row.mac other) =
      rows.filter fun other => !hasKey row.mac other := by
  induction rows with
  | nil => simp [putRow, own]
  | cons present rest ih =>
    cases same : hasKey row.mac present with
    | true => simp [putRow, same, own]
    | false => simp [putRow, same, ih]

/-- An upsert that goes through enters its entry in the place of the one that the address
has, or else at the end, and leaves the rows of all other addresses as they are. -/
theorem Mirrors.upsert_frame {history : History} {ledger : Ledger}
    (mirrors : history.Mirrors ledger) {call : Call} {mac : MacAddress}
    {entry : LedgerEntry} (entered : call.entered? = some (mac, entry)) :
    call.enter ledger = ledger.insert mac entry ∧
      (call.after history).rows.filter (fun row => !hasKey (.text mac.toString) row) =
        history.rows.filter fun row => !hasKey (.text mac.toString) row := by
  cases call with
  | purge retention now => simp [Call.entered?] at entered
  | upsert spelled hostname lastSeen epoch =>
    have upserted := mirrors.upsert_eq spelled hostname lastSeen epoch
    rw [entered] at upserted
    obtain ⟨row, holds, performed⟩ := upserted
    refine ⟨by simp [Call.enter, Call.enter?, entered], ?_⟩
    have own : hasKey row.mac row = true := by
      rw [holds.1, holds.hasKey_eq]
      simp
    rw [Call.after, performed, ← holds.1]
    exact filter_putRow own history.rows

/-- Any run of upserts and purges keeps the history readable and in step with the ledger
of the calls.  A scan lists the entries of the ledger in its order and passes nothing
over; the keys are the written forms of the distinct addresses of the ledger; a question
for any spelling of an address is answered with its entry, which says what the last
upsert of the address that went through said.  A further call is refused exactly if it
means nothing to the ledger, and then leaves all rows as they are; an upsert that goes
through puts its entry into the place of the present one or at the end, and leaves all
other rows as they are. -/
theorem history_refines_ledger (path : String) (calls : List Call) :
    let history := Call.runAll (create path) calls
    let ledger := Call.ledgerOf calls
    (∃ sightings, history.fetchAll = .ok ⟨sightings, []⟩ ∧
      sightings.length = history.rows.length ∧
      sightings.map Sighting.keyed = ledger.entries) ∧
    (ledger.keys.Nodup ∧
      history.rows.map Row.mac = ledger.keys.map fun mac => Cell.text mac.toString) ∧
    (∀ spelled mac, MacAddress.read? spelled.toList = some mac →
      ∃ found, history.get (.text spelled) = .ok ⟨found, []⟩ ∧
        found.map Sighting.keyed = (ledger.find? mac).map (Prod.mk mac)) ∧
    (∀ mac entry, ledger.find? mac = some entry →
      Call.lastEntered? mac calls = some entry) ∧
    (∀ call : Call, (∃ fault, call.perform history = .error fault) ↔ call.enter? ledger = none) ∧
    (∀ (call : Call) fault, call.perform history = .error fault →
      (call.after history).rows = history.rows) ∧
    (∀ (call : Call) mac entry, call.entered? = some (mac, entry) →
      call.enter ledger = ledger.insert mac entry ∧
        (call.enter ledger).keys =
          (if mac ∈ ledger.keys then ledger.keys else ledger.keys ++ [mac]) ∧
        (call.after history).rows.filter (fun row => !hasKey (.text mac.toString) row) =
          history.rows.filter fun row => !hasKey (.text mac.toString) row) := by
  intro history ledger
  have mirrors : history.Mirrors ledger := mirrors_runAll path calls
  refine ⟨?_, ⟨mirrors.distinct, map_mac mirrors.rows⟩, ?_, ?_, ?_, ?_, ?_⟩
  · exact ⟨_, mirrors.fetchAll_eq.1, length_filterMap_sighting? mirrors.rows,
      mirrors.fetchAll_eq.2⟩
  · intro spelled mac read
    exact mirrors.get_eq read
  · intro mac entry found
    exact lastEntered?_of_find? calls found
  · exact mirrors.refused_iff
  · intro call fault refused
    rw [Call.after, refused]
  · intro call mac entry entered
    obtain ⟨inserted, frame⟩ := mirrors.upsert_frame entered
    refine ⟨inserted, ?_, frame⟩
    rw [inserted, Index.keys_insert]

end History

end LeaseRoster
