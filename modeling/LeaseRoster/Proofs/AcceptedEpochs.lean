import LeaseRoster.Proofs.PurgePositions
import LeaseRoster.Proofs.SessionRuns
import LeaseRoster.Startup
import Mathlib.Data.List.TakeWhile

/-!
# Numbers of server runs that are accepted

At the start any number that is not negative is accepted as the number of the server run.
The history takes those below the limit of a word.  With such a number every batch of
leases that can be stored goes through, over any history that can be used, and the service
is never stopped by one.  With a greater number the first client that is written stops the
batch, when the list is published already and the version has not been counted up.
-/

namespace LeaseRoster

namespace History

/-! ## Rows of any history -/

theorem hasKey_iff (key : Cell) (row : Row) :
    hasKey key row = true ↔ row.mac = key ∧ key ≠ .null := by
  simp [hasKey]

/-- Writing a row changes what is found under its own key only. -/
theorem find?_putRow (row : Row) (key : Cell) (rows : List Row) :
    (putRow row rows).find? (hasKey key) =
      if hasKey key row then some row else rows.find? (hasKey key) := by
  induction rows with
  | nil => cases own : hasKey key row <;> simp [putRow, own]
  | cons present rest ih =>
    cases replaced : hasKey row.mac present with
    | true =>
      have same : present.mac = row.mac := ((hasKey_iff row.mac present).mp replaced).1
      have alike : hasKey key present = hasKey key row := by simp [hasKey, same]
      cases own : hasKey key row <;> simp [putRow, replaced, own, alike]
    | false =>
      cases found : hasKey key present with
      | false => simp [putRow, replaced, found, ih]
      | true =>
        have other : hasKey key row = false := by
          rw [← Bool.not_eq_true]
          intro own
          obtain ⟨same, present'⟩ := (hasKey_iff key row).mp own
          rw [same, found] at replaced
          cases replaced
        simp [putRow, replaced, found, other]

/-- What a history that can be used answers about an address stands in the first row under
it. -/
theorem recorded?_eq_find? {history : History} (usable : history.isOpen = true)
    (mac : MacAddress) :
    history.recorded? mac =
      (history.rows.find? (hasKey (.text mac.toString))).bind fun row =>
        row.sighting?.map fun sighting => sighting.keyed.2 := by
  have opened (task : HistoryTask) : history.whenOpen task = .ok () := by
    simp [whenOpen, usable]
  simp only [recorded?, get, Field.readMac_toString, opened, bind, Except.bind]
  cases history.rows.find? (hasKey (.text mac.toString)) with
  | none => rfl
  | some row =>
    dsimp only
    cases garbled : row.garbled? with
    | none => rfl
    | some cause =>
      -- A row that cannot be fetched makes no sighting either.
      have unread : row.sighting? = none := by
        refine Option.eq_none_iff_forall_ne_some.mpr fun sighting made => ?_
        rw [Row.garbled?_of_sighting? made] at garbled
        cases garbled
      rw [Option.bind_some, unread]
      rfl

theorem recorded?_putRow {history : History} (usable : history.isOpen = true) {row : Row}
    {held : MacAddress × LedgerEntry} (holds : row.Holds held) (mac : MacAddress) :
    (history.withRows (putRow row history.rows)).recorded? mac =
      if held.1 = mac then some held.2 else history.recorded? mac := by
  have written : (history.withRows (putRow row history.rows)).isOpen = true := usable
  rw [recorded?_eq_find? written, recorded?_eq_find? usable, rows_withRows, find?_putRow,
    holds.hasKey_eq]
  by_cases own : held.1 = mac
  · obtain ⟨sighting, made, rfl⟩ := holds.sighting?_eq
    simp [own, made]
  · simp [own]

end History

namespace Lease

/-- Why a history that can be used refuses a sighting of a lease in a server run. -/
def refusal? (epoch : Int) (lease : Lease) : Option Fault :=
  if !lease.isStorable then some .unencodable
  else if !fitsWord epoch then some .beyondRange
  else none

theorem refusal?_eq_none_iff (epoch : Int) (lease : Lease) :
    lease.refusal? epoch = none ↔ lease.isStorable = true ∧ fitsWord epoch = true := by
  unfold refusal?
  cases lease.isStorable <;> cases fitsWord epoch <;> simp

theorem isEncodable_reportedHostname_iff (lease : Lease) :
    Text.isEncodable lease.reportedHostname.toList = lease.isStorable := by
  cases storable : lease.isStorable with
  | true => exact isEncodable_reportedHostname storable
  | false =>
    have named : lease.hasHostname = true := by
      by_contra missing
      have asterisk : lease.hostname = missingHostname := by simpa [hasHostname] using missing
      rw [isStorable, asterisk] at storable
      exact absurd storable (by decide)
    rw [reportedHostname, if_pos named]
    exact storable

end Lease

namespace LiveClient

/-- Why the first client that is refused is refused. -/
def firstRefusal? (epoch : Int) (clients : List LiveClient) : Option Fault :=
  clients.findSome? fun client => client.lease.refusal? epoch

/-- The clients in front of the first one that is refused. -/
def untilRefusal (epoch : Int) (clients : List LiveClient) : List LiveClient :=
  clients.takeWhile fun client => (client.lease.refusal? epoch).isNone

end LiveClient

namespace Roster

/-! ## Writing clients -/

section Write

variable {history : History} {now : Moment} (usable : history.isOpen = true) (convertible : now.toUniversal?.isSome = true)
include usable convertible

/-- A history that can be used refuses a sighting, or it answers what the sighting says. -/
theorem writeSighting_cases (epoch : Int) (lease : Lease) :
    (∃ fault, lease.refusal? epoch = some fault ∧
      writeSighting epoch lease now history = .error fault ∧
      (fault = .unencodable ∨ fault = .beyondRange)) ∨
    ∃ next, lease.refusal? epoch = none ∧ writeSighting epoch lease now history = .ok next ∧
      next.isOpen = true ∧ ∀ mac, next.recorded? mac =
        if lease.mac = mac then some (lease.entryAt now epoch) else history.recorded? mac := by
  obtain ⟨universal, converted⟩ := Option.isSome_iff_exists.mp convertible
  obtain ⟨stored, written, _⟩ := Moment.readStored?_storedText converted
  have name := lease.isEncodable_reportedHostname_iff
  cases storable : lease.isStorable with
  | false =>
    left
    rw [storable] at name
    refine ⟨.unencodable, by simp [Lease.refusal?, storable], ?_, Or.inl rfl⟩
    simp [writeSighting, History.put, History.whenOpen, usable, written, Cell.ofText, name,
      bind, Except.bind]
  | true =>
    cases fits : fitsWord epoch with
    | false =>
      left
      rw [storable] at name
      refine ⟨.beyondRange, by simp [Lease.refusal?, storable, fits], ?_, Or.inr rfl⟩
      simp [writeSighting, History.put, History.whenOpen, usable, written, Cell.ofText, name,
        fits, bind, Except.bind, throw, throwThe, MonadExceptOf.throw]
    | true =>
      right
      obtain ⟨row, holds, wrote⟩ := writeSighting_eq fits convertible storable usable
      exact ⟨_, (lease.refusal?_eq_none_iff epoch).mpr ⟨storable, fits⟩, wrote, usable,
        History.recorded?_putRow usable holds⟩

end Write

theorem performAll_append (write : Write) (roster : Roster) (first second : List Step) :
    roster.performAll write (first ++ second) =
      match (roster.performAll write first).fault with
      | some _ => roster.performAll write first
      | none =>
        ((roster.performAll write first).roster.performAll write second).after
          (roster.performAll write first).notices := by
  induction first generalizing roster with
  | nil => rfl
  | cons step rest ih =>
    rw [List.cons_append, performAll, performAll]
    cases stopped : (roster.perform write step).fault with
    | some fault => rfl
    | none =>
      simp only [ih]
      cases ended : (performAll write (roster.perform write step).roster rest).fault with
      | some fault => simp [ended]
      | none => simp [Outcome.after, List.append_assoc]

section Track

variable {now : Moment}

/-- The clients in front of the first one that is refused are written. -/
theorem performAll_trackSteps_eq (roster : Roster) (usable : roster.history.isOpen = true)
    (convertible : now.toUniversal?.isSome = true) (epoch : Int) (clients : List LiveClient) :
    ∃ history, history.isOpen = true ∧
      roster.performAll (writeSighting epoch) (trackSteps now clients) =
        ⟨roster.withHistory history, [], LiveClient.firstRefusal? epoch clients⟩ ∧
      ∀ mac, history.recorded? mac =
        (LiveClient.lastRecord? mac now epoch (LiveClient.untilRefusal epoch clients)).or
          (roster.history.recorded? mac) := by
  induction clients generalizing roster with
  | nil => exact ⟨roster.history, usable, rfl, fun mac => rfl⟩
  | cons client rest ih =>
    have steps : trackSteps now (client :: rest) =
        .sight client.lease now :: trackSteps now rest := rfl
    rcases writeSighting_cases usable convertible epoch client.lease with
      ⟨fault, refused, wrote, kinds⟩ | ⟨next, granted, wrote, opened, answers⟩
    · refine ⟨roster.history, usable, ?_, ?_⟩
      · rcases kinds with rfl | rfl <;>
          simp [steps, performAll, perform, sight, wrote, LiveClient.firstRefusal?, refused,
            withHistory]
      · intro mac
        simp [LiveClient.untilRefusal, refused, LiveClient.lastRecord?]
    · obtain ⟨history, last, performed, recorded⟩ := ih (roster.withHistory next) opened
      refine ⟨history, last, ?_, ?_⟩
      · have done : roster.perform (writeSighting epoch) (.sight client.lease now) =
            ⟨roster.withHistory next, [], none⟩ := by
          simp [perform, sight, wrote, withHistory]
        rw [steps, performAll, done]
        dsimp only
        rw [performed]
        simp [LiveClient.firstRefusal?, granted, withHistory]
      · intro mac
        have earlier : (roster.withHistory next).history.recorded? mac =
            (LiveClient.lastRecord? mac now epoch [client]).or
              (roster.history.recorded? mac) := by
          rw [LiveClient.lastRecord?_singleton]
          refine (answers mac).trans ?_
          by_cases own : client.lease.mac = mac <;> simp [own]
        have entered : LiveClient.untilRefusal epoch (client :: rest) =
            client :: LiveClient.untilRefusal epoch rest := by
          simp [LiveClient.untilRefusal, granted]
        rw [recorded mac, earlier, entered, ← Option.or_assoc]
        exact congrArg (Option.or · _) (LiveClient.lastRecord?_append [client] _).symm

/-! ## Batches -/

/-- A batch is published; the clients in front of the first one that is refused are written;
and if none is refused the batch is counted. -/
theorem applyBatch_eq (reconciler : Reconciler) {roster : Roster}
    (usable : roster.history.isOpen = true) (convertible : now.toUniversal?.isSome = true)
    (leases : List Lease) :
    let clients := reconciler.enrich leases
    let stopped := LiveClient.firstRefusal? reconciler.epoch clients
    let counted := if stopped.isNone then 1 else 0
    ∃ history,
      (roster.applyBatch reconciler now leases).roster =
        { roster with
          published := clients, version := roster.version + counted
          applied := roster.applied + counted, history } ∧
      (roster.applyBatch reconciler now leases).fault = stopped ∧
      ∀ mac, history.recorded? mac =
        (LiveClient.lastRecord? mac now reconciler.epoch
          (LiveClient.untilRefusal reconciler.epoch clients)).or
            (roster.history.recorded? mac) := by
  intro clients stopped counted
  obtain ⟨history, -, performed, recorded⟩ := performAll_trackSteps_eq
    { roster with published := clients } usable convertible reconciler.epoch clients
  refine ⟨history, ?_, ?_, recorded⟩ <;>
  · simp only [applyBatch, applySteps, Outcome.after, List.cons_append, performAll,
      perform, performAll_append]
    rw [performed]
    cases refused : LiveClient.firstRefusal? reconciler.epoch clients <;>
      simp [stopped, counted, refused, withHistory]

end Track

/-- Writing to the history goes on after every sighting that can be stored, also when the
history is closed. -/
theorem fault_sight {epoch : Int} (fits : fitsWord epoch = true) {now : Moment}
    (convertible : now.toUniversal?.isSome = true) (roster : Roster) {lease : Lease}
    (storable : lease.isStorable = true) :
    (roster.sight (writeSighting epoch) lease now).fault = none := by
  cases usable : roster.history.isOpen with
  | true =>
    obtain ⟨row, -, wrote⟩ := writeSighting_eq fits convertible storable usable
    simp [sight, wrote]
  | false =>
    obtain ⟨universal, converted⟩ := Option.isSome_iff_exists.mp convertible
    obtain ⟨stored, written, _⟩ := Moment.readStored?_storedText converted
    simp [sight, writeSighting, History.put, History.whenOpen, usable, written, bind,
      Except.bind]

theorem fault_performAll {write : Write} {steps : List Step}
    (go : ∀ step ∈ steps, ∀ roster : Roster, (roster.perform write step).fault = none)
    (roster : Roster) : (roster.performAll write steps).fault = none := by
  induction steps generalizing roster with
  | nil => rfl
  | cons step rest ih =>
    rw [performAll, go step (by simp) roster]
    exact ih (fun other member => go other (List.mem_cons_of_mem _ member)) _

theorem fault_applySteps {epoch : Int} (fits : fitsWord epoch = true) {now : Moment}
    (convertible : now.toUniversal?.isSome = true) {clients : List LiveClient}
    (storable : ∀ client ∈ clients, client.lease.isStorable = true) (before : Nat)
    (roster : Roster) :
    (roster.performAll (writeSighting epoch) (applySteps now before clients)).fault = none := by
  refine fault_performAll (fun step member other => ?_) roster
  rcases List.mem_cons.mp member with rfl | behind
  · rfl
  · rcases List.mem_append.mp behind with tracked | announced
    · obtain ⟨client, inBatch, rfl⟩ := List.mem_map.mp tracked
      exact fault_sight fits convertible other (storable client inBatch)
    · rw [List.mem_singleton.mp announced]
      rfl

end Roster

namespace Schedule.Session

/-! ## The consumer of batches -/

/-- Looking behind writes does not change what is written. -/
theorem performAll_eq_roster (session : Session) (steps : List Roster.Step) :
    (session.performAll steps).1.roster = (session.roster.performAll
        (Roster.writeSighting session.reconciler.epoch) steps).roster ∧
      (session.performAll steps).2 = (session.roster.performAll
        (Roster.writeSighting session.reconciler.epoch) steps).fault := by
  have behind (other : Session) (step : Roster.Step) (notices : List Notice) :
      (other.behindStep step notices).roster = other.roster := by
    unfold behindStep behindWrite
    repeat' split
    all_goals rfl
  induction steps generalizing session with
  | nil => exact ⟨rfl, rfl⟩
  | cons step rest ih =>
    rw [performAll, Roster.performAll]
    generalize session.roster.perform (Roster.writeSighting session.reconciler.epoch) step = done
    cases stopped : done.fault with
    | some fault => simp [note]
    | none =>
      have next := ih (({ session with roster := done.roster }.note done.notices).behindStep
        step done.notices)
      rw [behind, (frames_behindStep _ step done.notices).reconciler] at next
      simpa [note, stopped] using next

/-- An update answers its live clients unless one of its steps is stopped. -/
theorem answer_update (session : Session) (feed : Feed.Outcome)
    (steps : List LiveClient → List Roster.Step) :
    (session.update feed steps).2 =
      match (session.roster.performAll (Roster.writeSighting session.reconciler.epoch)
        (steps (session.reconciler.enrich feed.leases))).fault with
      | none => .ok (.live (session.reconciler.enrich feed.leases))
      | some fault => .error fault := by
  have same := (performAll_eq_roster (session.note (feed.notices ++
    session.reconciler.enrichNotices feed.leases))
      (steps (session.reconciler.enrich feed.leases))).2
  change _ = (session.roster.performAll (Roster.writeSighting session.reconciler.epoch) _).fault
    at same
  rw [← same]
  unfold update
  dsimp only
  generalize performAll _ _ = done
  obtain ⟨next, fault⟩ := done
  cases fault <;> rfl

/-- A turn ends as the batch does that was waiting. -/
theorem fault_turn (session : Session) :
    session.turn.2 =
      match session.roster.waiting with
      | none => none
      | some leases =>
        (Roster.applyBatch session.reconciler session.clock
          { session.roster with waiting := none } leases).fault := by
  unfold turn Roster.take?
  cases session.roster.waiting with
  | none => rfl
  | some leases =>
    have answered := answer_update
      { session with roster := { session.roster with waiting := none } } ⟨leases, []⟩
      (Roster.applySteps session.clock session.roster.published.length)
    simp only [Option.map_some, apply, Roster.applyBatch, Roster.Outcome.after]
    generalize update _ _ _ = done at answered ⊢
    obtain ⟨next, outcome⟩ := done
    dsimp only at answered ⊢
    rw [answered]
    generalize (Roster.performAll _ _ _).fault = fault
    cases fault <;> rfl

section Consumer

variable {session : Session} {reconciler : Reconciler}

/-- Whether all leases of a batch can be stored, within the limit of `Lease.isStorable`. -/
def isStorableBatch (leases : List Lease) : Bool := leases.all Lease.isStorable

/-- Whether a clock has a reading in universal time. -/
def isConvertible (now : Moment) : Bool := now.toUniversal?.isSome

theorem fault_turn_of_steady (fits : fitsWord reconciler.epoch = true)
    (steady : session.Steady isConvertible isStorableBatch reconciler) :
    session.turn.2 = none := by
  rw [fault_turn]
  cases waits : session.roster.waiting with
  | none => rfl
  | some leases =>
    have storable := List.all_eq_true.mp (steady.waits leases waits)
    rw [steady.configured]
    exact Roster.fault_applySteps fits steady.clocked
      (fun client member => reconciler.isStorable_of_mem_enrich storable member) _ _

/-- Where every number, clock and batch can be stored, the consumer comes to the end of every
schedule, whatever happens to the history in between. -/
theorem applyRounds_goes_on (fits : fitsWord reconciler.epoch = true)
    (steady : session.Steady isConvertible isStorableBatch reconciler)
    {rounds : List (List Action)}
    (kind : Action.areRoundsSteady isConvertible isStorableBatch rounds = true)
    (reports : List (List Report)) :
    ∃ next collected, session.applyRounds reports rounds =
        (next, .ok (.applied collected none)) ∧
      collected.length = reports.length + rounds.length := by
  induction rounds generalizing session reports with
  | nil => exact ⟨session, reports, by rw [applyRounds], rfl⟩
  | cons round rest ih =>
    rw [Action.areRoundsSteady, Bool.and_eq_true] at kind
    have after := steady.runAll round kind.1
    have turned := after.turn
    have goes := fault_turn_of_steady fits after
    obtain ⟨next, collected, ended, length⟩ :=
      ih turned kind.2 (reports ++ [(session.runAll round).1])
    refine ⟨next, collected, ?_, ?_⟩
    · rw [applyRounds]
      generalize session.runAll round = ran at goes ended ⊢
      obtain ⟨answers, after⟩ := ran
      dsimp only at goes ended ⊢
      generalize after.turn = done at goes ended ⊢
      obtain ⟨last, fault⟩ := done
      obtain rfl : fault = none := goes
      exact ended
    · rw [length, List.length_append, List.length_singleton, List.length_cons]
      omega

end Consumer

end Schedule.Session

/-! ## Accepted numbers -/

namespace Startup

theorem nonneg_of_epochOf {source : String} {raw : Datum} {epoch : Int}
    (read : epochOf source raw = .ok epoch) : 0 ≤ epoch := by
  unfold epochOf at read
  split at read
  · cases read
  · split at read
    · cases read
    · cases read
      omega

theorem nonneg_of_readEpoch {path : String} {found : Except Fault StoredFile}
    {given : Option Datum} {epoch : Int} (read : readEpoch path found given = .ok epoch) :
    0 ≤ epoch := by
  unfold readEpoch at read
  split at read
  · exact nonneg_of_epochOf read
  · split at read
    · exact nonneg_of_epochOf read
    · cases read

end Startup

theorem Reconciler.epoch_of_create {pool : AddressPool} {registry : Registry} {epoch : Int}
    {domain : String} {workers : Datum} {reconciler : Reconciler}
    (made : create pool registry (.whole epoch) domain workers = .ok reconciler) :
    reconciler.epoch = epoch := by
  unfold create at made
  split at made
  · cases made
  · change (History.toInteger workers).bind (fun count =>
      .ok ⟨pool, registry, epoch, domain, max 1 count⟩) = .ok reconciler at made
    cases count : History.toInteger workers with
    | error fault =>
      rw [count] at made
      cases made
    | ok number =>
      rw [count] at made
      cases made
      rfl

theorem fitsWord_of_nonneg {value : Int} (nonneg : 0 ≤ value) :
    fitsWord value = true ↔ value < wordLimit := by
  rw [fitsWord_iff]
  simp only [wordLimit]
  omega

namespace LiveClient

/-- No client of a batch is refused if all its leases can be stored and the number of the run
fits a word, which does not matter where there is no client. -/
theorem firstRefusal?_enrich_eq_none_iff (reconciler : Reconciler) (leases : List Lease) :
    firstRefusal? reconciler.epoch (reconciler.enrich leases) = none ↔
      (∀ lease ∈ leases, lease.isStorable = true) ∧
        (leases = [] ∨ fitsWord reconciler.epoch = true) := by
  simp only [firstRefusal?, List.findSome?_eq_none_iff, Reconciler.mem_enrich_iff,
    Lease.refusal?_eq_none_iff]
  constructor
  · intro granted
    have each (lease : Lease) (member : lease ∈ leases) :
        lease.isStorable = true ∧ fitsWord reconciler.epoch = true :=
      granted (reconciler.enrichLease lease) ⟨lease, member, rfl⟩
    refine ⟨fun lease member => (each lease member).1, ?_⟩
    cases leases with
    | nil => exact Or.inl rfl
    | cons lease rest => exact Or.inr (each lease (by simp)).2
  · rintro ⟨storable, empty | fits⟩ client ⟨lease, member, rfl⟩
    · rw [empty] at member
      cases member
    · exact ⟨storable lease member, fits⟩

theorem untilRefusal_of_none {epoch : Int} {clients : List LiveClient}
    (granted : firstRefusal? epoch clients = none) : untilRefusal epoch clients = clients := by
  rw [firstRefusal?, List.findSome?_eq_none_iff] at granted
  exact List.takeWhile_eq_self_iff.mpr fun client member => by rw [granted client member]; rfl

/-- With a number beyond the words the first client is refused already. -/
theorem refused_of_wide {reconciler : Reconciler} (wide : fitsWord reconciler.epoch = false)
    {leases : List Lease} (storable : ∀ lease ∈ leases, lease.isStorable = true)
    (filled : leases ≠ []) :
    firstRefusal? reconciler.epoch (reconciler.enrich leases) = some .beyondRange ∧
      untilRefusal reconciler.epoch (reconciler.enrich leases) = [] := by
  cases live : reconciler.enrich leases with
  | nil =>
    obtain ⟨lease, member⟩ := List.exists_mem_of_ne_nil leases filled
    have present := (reconciler.mem_enrich_iff leases _).mpr ⟨lease, member, rfl⟩
    rw [live] at present
    cases present
  | cons client rest =>
    have own := reconciler.isStorable_of_mem_enrich storable (live ▸ List.mem_cons_self)
    have refusal : client.lease.refusal? reconciler.epoch = some .beyondRange := by
      simp [Lease.refusal?, own, wide]
    simp [firstRefusal?, untilRefusal, refusal]

end LiveClient

namespace Roster

/-- A batch that goes through: the list is published, the version and the count of batches go
up by one, and the history has every client of the batch as seen now, in the given run. -/
structure BatchApplied (reconciler : Reconciler) (now : Moment) (roster : Roster)
    (leases : List Lease) (done : Outcome) : Prop where
  goes : done.fault = none
  published : done.roster.published = reconciler.enrich leases
  version : done.roster.version = roster.version + 1
  applied : done.roster.applied = roster.applied + 1
  recorded : ∀ mac, done.roster.history.recorded? mac =
    (LiveClient.lastRecord? mac now reconciler.epoch (reconciler.enrich leases)).or
      (roster.history.recorded? mac)
  present : ∀ lease ∈ leases, ∃ entry,
    done.roster.history.recorded? lease.mac = some entry ∧
      entry.instant = now.instant ∧ entry.epoch = reconciler.epoch

/-- A batch that is stopped: the list is published, but the version and the count of batches
stay as they are. -/
structure BatchStopped (reconciler : Reconciler) (roster : Roster) (leases : List Lease)
    (fault : Fault) (done : Outcome) : Prop where
  stops : done.fault = some fault
  published : done.roster.published = reconciler.enrich leases
  version : done.roster.version = roster.version
  applied : done.roster.applied = roster.applied

section Batch

variable {reconciler : Reconciler} {now : Moment} {roster : Roster} {leases : List Lease}
  (usable : roster.history.isOpen = true) (convertible : now.toUniversal?.isSome = true)
include usable convertible

theorem batchApplied (storable : ∀ lease ∈ leases, lease.isStorable = true)
    (fits : leases = [] ∨ fitsWord reconciler.epoch = true) :
    BatchApplied reconciler now roster leases (roster.applyBatch reconciler now leases) := by
  obtain ⟨history, left, fault, recorded⟩ :=
    applyBatch_eq reconciler usable convertible leases
  have granted := (LiveClient.firstRefusal?_enrich_eq_none_iff reconciler leases).mpr
    ⟨storable, fits⟩
  rw [LiveClient.untilRefusal_of_none granted] at recorded
  rw [granted] at left fault
  have answers (mac : MacAddress) :
      (roster.applyBatch reconciler now leases).roster.history.recorded? mac =
        (LiveClient.lastRecord? mac now reconciler.epoch (reconciler.enrich leases)).or
          (roster.history.recorded? mac) := by
    rw [left]
    exact recorded mac
  refine ⟨fault, by rw [left], by rw [left]; rfl, by rw [left]; rfl, answers, ?_⟩
  intro lease member
  have live : reconciler.enrichLease lease ∈ reconciler.enrich leases :=
    (reconciler.mem_enrich_iff leases _).mpr ⟨lease, member, rfl⟩
  have written : (LiveClient.lastRecord? lease.mac now reconciler.epoch
      (reconciler.enrich leases)).isSome = true := LiveClient.isSome_lastRecord? live
  obtain ⟨entry, last⟩ := Option.isSome_iff_exists.mp written
  obtain ⟨seen, -, -, rfl⟩ := LiveClient.eq_entryAt_of_lastRecord? last
  have answered := answers lease.mac
  rw [last, Option.some_or] at answered
  exact ⟨_, answered, rfl, rfl⟩

theorem batchStopped {fault : Fault}
    (refused : LiveClient.firstRefusal? reconciler.epoch (reconciler.enrich leases) =
      some fault) :
    BatchStopped reconciler roster leases fault
      (roster.applyBatch reconciler now leases) := by
  obtain ⟨history, left, stopped, -⟩ := applyBatch_eq reconciler usable convertible leases
  rw [refused] at left stopped
  exact ⟨stopped, by rw [left], by rw [left]; rfl, by rw [left]; rfl⟩

end Batch

end Roster

namespace Schedule.Session

/-- A consumer under a number beyond the words stops at the first batch that has a lease. -/
theorem applyRounds_stops {session : Session} {reconciler : Reconciler}
    (wide : fitsWord reconciler.epoch = false)
    (steady : session.Steady isConvertible isStorableBatch reconciler) {round : List Action}
    (kind : Action.areSteady isConvertible isStorableBatch round = true) {leases : List Lease}
    (waits : (session.runAll round).2.roster.waiting = some leases) (filled : leases ≠ [])
    (usable : (session.runAll round).2.roster.history.isOpen = true)
    (reports : List (List Report)) (rest : List (List Action)) :
    ∃ next, session.applyRounds reports (round :: rest) =
      (next, .ok (.applied (reports ++ [(session.runAll round).1]) (some .beyondRange))) := by
  have after := steady.runAll round kind
  have storable := List.all_eq_true.mp (after.waits leases waits)
  have refused := (LiveClient.refused_of_wide wide storable filled).1
  have opened : ({ (session.runAll round).2.roster with waiting := none } : Roster).history.isOpen
      = true := usable
  have stops : (session.runAll round).2.turn.2 = some .beyondRange := by
    rw [fault_turn, waits, after.configured]
    exact (Roster.batchStopped opened after.clocked refused).stops
  rw [applyRounds]
  generalize session.runAll round = ran at stops ⊢
  obtain ⟨answers, last⟩ := ran
  dsimp only at stops ⊢
  generalize last.turn = done at stops ⊢
  obtain ⟨next, fault⟩ := done
  obtain rfl : fault = some .beyondRange := stops
  exact ⟨next, rfl⟩

end Schedule.Session

namespace Startup

open Schedule Session

/-- A number that is accepted at the start is usable if it is below the limit of the words:
then every batch of leases that can be stored is applied, and the consumer of batches goes
on.  With a greater one only a batch without leases is applied; any other one is stopped
behind the publication of its list, before anything is written, and it ends the consumer.
Names that cannot be stored stop their batch under any number. -/
theorem accepted_epoch_usable_below_wordLimit {path : String}
    {found : Except Fault StoredFile} {given : Option Datum} {epoch : Int}
    (accepted : readEpoch path found given = .ok epoch) {pool : AddressPool}
    {registry : Registry} {domain : String} {workers : Datum} {reconciler : Reconciler}
    (built : Reconciler.create pool registry (.whole epoch) domain workers = .ok reconciler) :
    (∀ (roster : Roster) (leases : List Lease) (now : Moment),
      roster.history.isOpen = true → now.toUniversal?.isSome = true →
      let done := roster.applyBatch reconciler now leases
      ((∀ lease ∈ leases, lease.isStorable = true) → leases = [] ∨ epoch < wordLimit →
        Roster.BatchApplied reconciler now roster leases done) ∧
      ((∀ lease ∈ leases, lease.isStorable = true) → leases ≠ [] → wordLimit ≤ epoch →
        Roster.BatchStopped reconciler roster leases .beyondRange done ∧
          ∀ mac, done.roster.history.recorded? mac = roster.history.recorded? mac) ∧
      ((∃ lease ∈ leases, lease.isStorable = false) →
        ∃ fault, Roster.BatchStopped reconciler roster leases fault done)) ∧
    (epoch < wordLimit → ∀ (session : Session) (rounds : List (List Action))
      (reports : List (List Report)),
      session.Steady isConvertible isStorableBatch reconciler →
      Action.areRoundsSteady isConvertible isStorableBatch rounds = true →
      ∃ next collected, session.applyRounds reports rounds =
          (next, .ok (.applied collected none)) ∧
        collected.length = reports.length + rounds.length) ∧
    (wordLimit ≤ epoch → ∀ (session : Session) (round : List Action)
      (rest : List (List Action)) (reports : List (List Report)) (leases : List Lease),
      session.Steady isConvertible isStorableBatch reconciler →
      Action.areSteady isConvertible isStorableBatch round = true →
      (session.runAll round).2.roster.waiting = some leases → leases ≠ [] →
      (session.runAll round).2.roster.history.isOpen = true →
      ∃ next, session.applyRounds reports (round :: rest) =
        (next, .ok (.applied (reports ++ [(session.runAll round).1]) (some .beyondRange)))) := by
  obtain rfl := Reconciler.epoch_of_create built
  have word := fitsWord_of_nonneg (nonneg_of_readEpoch accepted)
  have wide (beyond : wordLimit ≤ reconciler.epoch) : fitsWord reconciler.epoch = false := by
    rw [← Bool.not_eq_true, word]
    omega
  refine ⟨?_, ?_, ?_⟩
  · intro roster leases now usable convertible done
    refine ⟨?_, ?_, ?_⟩
    · intro storable fits
      exact Roster.batchApplied usable convertible storable (fits.imp_right word.mpr)
    · intro storable filled beyond
      obtain ⟨refused, before⟩ := LiveClient.refused_of_wide (wide beyond) storable filled
      refine ⟨Roster.batchStopped usable convertible refused, fun mac => ?_⟩
      obtain ⟨history, left, -, recorded⟩ :=
        Roster.applyBatch_eq reconciler usable convertible leases
      have kept := recorded mac
      rw [before] at kept
      exact (congrArg (fun roster : Roster => roster.history.recorded? mac) left).trans kept
    · rintro ⟨lease, member, unstorable⟩
      cases refused : LiveClient.firstRefusal? reconciler.epoch (reconciler.enrich leases) with
      | some fault => exact ⟨fault, Roster.batchStopped usable convertible refused⟩
      | none =>
        obtain ⟨storable, -⟩ :=
          (LiveClient.firstRefusal?_enrich_eq_none_iff reconciler leases).mp refused
        rw [storable lease member] at unstorable
        cases unstorable
  · intro below session rounds reports steady kind
    exact applyRounds_goes_on (word.mpr below) steady kind reports
  · intro beyond session round rest reports leases steady kind waits filled usable
    exact applyRounds_stops (wide beyond) steady kind waits filled usable reports rest

/-- The batch of one client is applied in the seventh run, also when the consumer takes it. -/
theorem seventh_run_applies_batch :
    let reconciler : Reconciler := ⟨⟨[]⟩, .empty, 7, "lan", 1⟩
    let now : Moment := ⟨738946 * microsPerDay, some 0, by decide⟩
    let lease : Lease := ⟨⟨List.replicate 12 7, rfl⟩, .v4 1, "printer", none, none⟩
    let roster := Roster.initial (History.create "clients.db")
    let session : Session := ⟨now, reconciler, roster, Index.empty, false, [], []⟩
    let rounds : List (List Action) := [[.submit ⟨[lease], []⟩, .setClock now], [.close]]
    readEpoch "epoch" (.ok (.file [0x37, 0x0a])) none = .ok 7 ∧
      Reconciler.create ⟨[]⟩ .empty (.whole 7) "lan" (.whole 1) = .ok reconciler ∧
      Roster.BatchApplied reconciler now roster [lease]
        (roster.applyBatch reconciler now [lease]) ∧
      ∃ next collected, session.applyRounds [] rounds =
          (next, .ok (.applied collected none)) ∧ collected.length = 2 := by
  intro reconciler now lease roster session rounds
  have accepted : readEpoch "epoch" (.ok (.file [0x37, 0x0a])) none = .ok 7 := by
    decide +kernel
  have built : Reconciler.create ⟨[]⟩ .empty (.whole 7) "lan" (.whole 1) = .ok reconciler := rfl
  obtain ⟨batches, consumer, -⟩ := accepted_epoch_usable_below_wordLimit accepted built
  refine ⟨accepted, built, ?_, ?_⟩
  · exact (batches roster [lease] now rfl (by decide)).1 (by decide) (Or.inr (by decide))
  · have steady : session.Steady isConvertible isStorableBatch reconciler :=
      ⟨rfl, by decide, by rintro _ ⟨⟩⟩
    exact consumer (by decide) session rounds [] steady (by decide)

/-- The first number beyond the words is accepted, and then the first batch stops the
consumer: its client is in the list, but the version is still zero. -/
theorem run_beyond_words_stops_consumer :
    let epoch : Int := 9223372036854775808
    let reconciler : Reconciler := ⟨⟨[]⟩, .empty, epoch, "lan", 1⟩
    let now : Moment := ⟨738946 * microsPerDay, some 0, by decide⟩
    let lease : Lease := ⟨⟨List.replicate 12 7, rfl⟩, .v4 1, "printer", none, none⟩
    let roster := Roster.initial (History.create "clients.db")
    let session : Session := ⟨now, reconciler, roster, Index.empty, false, [], []⟩
    let done := roster.applyBatch reconciler now [lease]
    readEpoch "epoch" (.ok .missing) (some (.text "9223372036854775808")) = .ok epoch ∧
      Reconciler.create ⟨[]⟩ .empty (.whole epoch) "lan" (.whole 1) = .ok reconciler ∧
      roster.history.isOpen = true ∧
      done.fault = some .beyondRange ∧ done.roster.version = 0 ∧
      done.roster.published = reconciler.enrich [lease] ∧
      ∃ next, session.applyRounds [] [[.submit ⟨[lease], []⟩]] =
        (next, .ok (.applied [[(.ok .nothing, [], [])]] (some .beyondRange))) := by
  intro epoch reconciler now lease roster session done
  have wide : fitsWord reconciler.epoch = false := by decide
  have storable : ∀ other ∈ [lease], other.isStorable = true := by decide
  have convertible : now.toUniversal?.isSome = true := by decide
  have refused := (LiveClient.refused_of_wide wide storable (by simp)).1
  have stopped := Roster.batchStopped (show roster.history.isOpen = true from rfl) convertible
    refused
  have steady : session.Steady isConvertible isStorableBatch reconciler :=
    ⟨rfl, convertible, by rintro _ ⟨⟩⟩
  have kind : Action.areSteady isConvertible isStorableBatch [.submit ⟨[lease], []⟩] = true := by
    decide
  have accepted : readEpoch "epoch" (.ok .missing) (some (.text "9223372036854775808")) =
      .ok epoch := by
    decide +kernel
  refine ⟨accepted, rfl, rfl, stopped.stops, stopped.version, stopped.published, ?_⟩
  exact applyRounds_stops wide steady kind (show _ = some [lease] from rfl) (by simp) rfl [] []

end Startup

end LeaseRoster
