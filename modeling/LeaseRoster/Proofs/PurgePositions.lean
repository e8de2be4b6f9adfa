import LeaseRoster.Proofs.HistoryRuns
import LeaseRoster.Proofs.SightingWrites

/-!
# A purge among the writes of a batch

The live clients of a batch are written to the history one after the other, and a purge may
come in between any two writes.  It may remove the old row of a client that is still to be
written, or find that row written anew already.  Neither makes a difference in the end:
what is written now is not from before the cutoff, so the history says of each client of
the batch what its last lease says, and of any other one what the purge spares.
-/

namespace LeaseRoster

/-- The instant before which a purge removes what was last seen, if it removes anything. -/
def History.purgeCutoff? (retention : Option Duration) (now : Moment) : Option Int :=
  retention.bind fun duration =>
    if 0 < duration.micros then (now.minus? duration).map Moment.instant else none

/-- Whether a purge with a cutoff, or without any, spares an entry. -/
def LedgerEntry.isSpared (cutoff : Option Int) (entry : LedgerEntry) : Bool :=
  cutoff.all fun instant => instant ≤ entry.instant

namespace LiveClient

/-- What the history is to know of a hardware address when some clients are written one after
the other: what the last lease of the address says. -/
def lastRecord? (mac : MacAddress) (now : Moment) (epoch : Int) (clients : List LiveClient) :
    Option LedgerEntry :=
  (clients.reverse.find? fun client => client.lease.mac = mac).map fun client =>
    client.lease.entryAt now epoch

section LastRecord

variable {mac : MacAddress} {now : Moment} {epoch : Int}

theorem lastRecord?_append (first rest : List LiveClient) :
    lastRecord? mac now epoch (first ++ rest) =
      (lastRecord? mac now epoch rest).or (lastRecord? mac now epoch first) := by
  simp [lastRecord?, List.find?_append, Option.map_or]

theorem lastRecord?_singleton (client : LiveClient) :
    lastRecord? mac now epoch [client] =
      if client.lease.mac = mac then some (client.lease.entryAt now epoch) else none := by
  by_cases own : client.lease.mac = mac <;> simp [lastRecord?, own]

/-- What a lease says of its client was seen at the time of the write. -/
theorem eq_entryAt_of_lastRecord? {clients : List LiveClient} {entry : LedgerEntry}
    (last : lastRecord? mac now epoch clients = some entry) :
    ∃ client ∈ clients, client.lease.mac = mac ∧ entry = client.lease.entryAt now epoch := by
  obtain ⟨client, found, rfl⟩ := Option.map_eq_some_iff.mp last
  have member := List.mem_of_find?_eq_some found
  have own := List.find?_some found
  exact ⟨client, List.mem_reverse.mp member, of_decide_eq_true own, rfl⟩

theorem isSome_lastRecord? {clients : List LiveClient} {client : LiveClient}
    (member : client ∈ clients) :
    (lastRecord? client.lease.mac now epoch clients).isSome = true := by
  rw [lastRecord?, Option.isSome_map, List.find?_isSome]
  exact ⟨client, List.mem_reverse.mpr member, by simp⟩

/-- What is written is spared by a purge whose cutoff is not behind the time of the write. -/
theorem filter_lastRecord?_or {cutoff : Option Int}
    (recent : ∀ instant, cutoff = some instant → instant ≤ now.instant)
    (clients : List LiveClient) (earlier : Option LedgerEntry) :
    ((lastRecord? mac now epoch clients).or earlier).filter (LedgerEntry.isSpared cutoff) =
      (lastRecord? mac now epoch clients).or
        (earlier.filter (LedgerEntry.isSpared cutoff)) := by
  cases last : lastRecord? mac now epoch clients with
  | none => rfl
  | some entry =>
    have spared : entry.isSpared cutoff = true := by
      obtain ⟨client, _, _, rfl⟩ := eq_entryAt_of_lastRecord? last
      cases reached : cutoff with
      | none => rfl
      | some instant => exact decide_eq_true (recent instant reached)
    simp [spared]

end LastRecord

end LiveClient

namespace Ledger

/-- The ledger with some clients entered one after the other. -/
def enterAll (ledger : Ledger) (now : Moment) (epoch : Int) (clients : List LiveClient) :
    Ledger :=
  clients.foldl
    (fun ledger client => ledger.insert client.lease.mac (client.lease.entryAt now epoch))
    ledger

theorem find?_enterAll (ledger : Ledger) (now : Moment) (epoch : Int)
    (clients : List LiveClient) (mac : MacAddress) :
    (ledger.enterAll now epoch clients).find? mac =
      (LiveClient.lastRecord? mac now epoch clients).or (ledger.find? mac) := by
  induction clients generalizing ledger with
  | nil => rfl
  | cons client rest ih =>
    have entered := ih (ledger.insert client.lease.mac (client.lease.entryAt now epoch))
    rw [enterAll, List.foldl_cons, ← enterAll, entered, ← List.singleton_append,
      LiveClient.lastRecord?_append, Option.or_assoc, LiveClient.lastRecord?_singleton,
      Index.find?_insert]
    by_cases own : client.lease.mac = mac <;> simp [own]

theorem nodup_keys_enterAll {ledger : Ledger} (distinct : ledger.keys.Nodup) (now : Moment)
    (epoch : Int) (clients : List LiveClient) :
    (ledger.enterAll now epoch clients).keys.Nodup := by
  induction clients generalizing ledger with
  | nil => exact distinct
  | cons client rest ih => exact ih (Index.nodup_keys_insert distinct _ _)

theorem enter_purge (ledger : Ledger) (retention : Option Duration) (now : Moment) :
    (History.Call.purge retention now).enter ledger =
      ((History.purgeCutoff? retention now).map ledger.forget).getD ledger := by
  cases retention with
  | none => rfl
  | some duration =>
    by_cases positive : 0 < duration.micros
    · have asks : ¬ duration.micros ≤ 0 := not_le.mpr positive
      cases reached : now.minus? duration <;>
        simp [History.Call.enter, History.Call.enter?, History.purgeCutoff?, positive, asks,
          reached]
    · have declines : duration.micros ≤ 0 := not_lt.mp positive
      simp [History.Call.enter, History.Call.enter?, History.purgeCutoff?, positive, declines]

theorem find?_enter_purge {ledger : Ledger} (distinct : ledger.keys.Nodup)
    (retention : Option Duration) (now : Moment) (mac : MacAddress) :
    ((History.Call.purge retention now).enter ledger).find? mac =
      (ledger.find? mac).filter
        (LedgerEntry.isSpared (History.purgeCutoff? retention now)) := by
  rw [enter_purge]
  cases History.purgeCutoff? retention now with
  | none => cases known : ledger.find? mac <;> simp [Option.filter, LedgerEntry.isSpared, known]
  | some instant => exact find?_forget distinct instant mac

/-- What the writes around a purge leave in a ledger does not depend on where the purge comes
in, if its cutoff is not behind the time of the writes. -/
theorem find?_around_purge {ledger : Ledger} (distinct : ledger.keys.Nodup) {now : Moment}
    {epoch : Int} {retention : Option Duration} {purgedAt : Moment}
    (recent : ∀ cutoff, History.purgeCutoff? retention purgedAt = some cutoff →
      cutoff ≤ now.instant) (clients : List LiveClient) (position : Nat) (mac : MacAddress) :
    (((History.Call.purge retention purgedAt).enter
      (ledger.enterAll now epoch (clients.take position))).enterAll now epoch
        (clients.drop position)).find? mac =
      (LiveClient.lastRecord? mac now epoch clients).or ((ledger.find? mac).filter
        (LedgerEntry.isSpared (History.purgeCutoff? retention purgedAt))) := by
  have unique := nodup_keys_enterAll distinct now epoch (clients.take position)
  rw [find?_enterAll, find?_enter_purge unique, find?_enterAll,
    LiveClient.filter_lastRecord?_or recent, ← Option.or_assoc,
    ← LiveClient.lastRecord?_append, List.take_append_drop]

end Ledger

namespace History

/-- What a history answers about a hardware address. -/
def recorded? (history : History) (mac : MacAddress) : Option LedgerEntry :=
  match history.get (.text mac.toString) with
  | .ok found => found.value.map fun sighting => sighting.keyed.2
  | .error _ => none

theorem Mirrors.recorded?_eq {history : History} {ledger : Ledger}
    (mirrors : history.Mirrors ledger) (mac : MacAddress) :
    history.recorded? mac = ledger.find? mac := by
  obtain ⟨found, answered, keyed⟩ := mirrors.get_eq (MacAddress.read?_toString mac)
  have values := congrArg (Option.map Prod.snd) keyed
  rw [recorded?, answered]
  simpa [Option.map_map, Function.comp_def] using values

end History

namespace Roster

/-- Writes some live clients to the history, with a purge in front of the one at a position,
or behind all if there is none.  The writes end where one is stopped. -/
def trackAround (epoch : Int) (now : Moment) (purge : History.Call)
    (clients : List LiveClient) (position : Nat) (roster : Roster) : Outcome :=
  let first :=
    roster.performAll (writeSighting epoch) (trackSteps now (clients.take position))
  match first.fault with
  | some _ => first
  | none =>
    let rest :=
      (first.roster.withHistory (purge.after first.roster.history)).performAll
        (writeSighting epoch) (trackSteps now (clients.drop position))
    rest.after first.notices

section Track

variable {epoch : Int} {now : Moment} {clients : List LiveClient} {roster : Roster}
  {ledger : Ledger} (fits : fitsWord epoch = true)
  (convertible : now.toUniversal?.isSome = true)
  (storable : ∀ client ∈ clients, client.lease.isStorable = true)
  (mirrors : roster.history.Mirrors ledger)
include fits convertible storable mirrors

/-- Clients that can be stored are all written, and enter the ledger in their order. -/
theorem performAll_trackSteps :
    ∃ history, roster.performAll (writeSighting epoch) (trackSteps now clients) =
        ⟨roster.withHistory history, [], none⟩ ∧
      history.Mirrors (ledger.enterAll now epoch clients) := by
  induction clients generalizing roster ledger with
  | nil => exact ⟨roster.history, rfl, mirrors⟩
  | cons client rest ih =>
    obtain ⟨next, written, entered⟩ := writeSighting_mirrors fits convertible
      (storable client (by simp)) mirrors
    obtain ⟨history, performed, mirrored⟩ := ih
      (fun other member => storable other (List.mem_cons_of_mem _ member))
      (show (roster.withHistory next).history.Mirrors _ from entered)
    refine ⟨history, ?_, mirrored⟩
    have done : roster.perform (writeSighting epoch) (.sight client.lease now) =
        ⟨roster.withHistory next, [], none⟩ := by
      simp [perform, sight, written, withHistory]
    have steps : trackSteps now (client :: rest) =
        .sight client.lease now :: trackSteps now rest := rfl
    rw [steps, performAll, done]
    dsimp only
    rw [performed]
    rfl

/-- With a purge among the writes no write fails, and the ledger first takes the clients in
front of it, then is purged, then takes the others. -/
theorem trackAround_mirrors (purge : History.Call) (position : Nat) :
    ∃ history, roster.trackAround epoch now purge clients position =
        ⟨roster.withHistory history, [], none⟩ ∧
      history.Mirrors ((purge.enter
        (ledger.enterAll now epoch (clients.take position))).enterAll now epoch
          (clients.drop position)) := by
  obtain ⟨between, first, entered⟩ := performAll_trackSteps fits convertible
    (fun client member => storable client (List.mem_of_mem_take member)) mirrors
  have purged : ((roster.withHistory between).withHistory
      (purge.after between)).history.Mirrors (purge.enter
        (ledger.enterAll now epoch (clients.take position))) := entered.after purge
  obtain ⟨history, rest, mirrored⟩ := performAll_trackSteps fits convertible
    (fun client member => storable client (List.mem_of_mem_drop member)) purged
  refine ⟨history, ?_, mirrored⟩
  rw [trackAround, first]
  exact congrArg (Outcome.after · []) rest

variable {retention : Option Duration} {purgedAt : Moment}
  (recent : ∀ cutoff, History.purgeCutoff? retention purgedAt = some cutoff →
    cutoff ≤ now.instant)
include recent

theorem recorded?_trackAround (position : Nat) (mac : MacAddress) :
    (roster.trackAround epoch now (.purge retention purgedAt) clients
        position).roster.history.recorded? mac =
      (LiveClient.lastRecord? mac now epoch clients).or ((roster.history.recorded? mac).filter
        (LedgerEntry.isSpared (History.purgeCutoff? retention purgedAt))) := by
  obtain ⟨history, tracked, mirrored⟩ := trackAround_mirrors fits convertible storable
    mirrors (.purge retention purgedAt) position
  have answered := mirrored.recorded?_eq mac
  rw [Ledger.find?_around_purge mirrors.distinct recent, ← mirrors.recorded?_eq mac] at answered
  rw [tracked]
  exact answered

/-- The listings of the history behind two positions of the purge differ in their order
only. -/
theorem fetchAll_trackAround (first second : Nat) :
    ∃ one other,
      (roster.trackAround epoch now (.purge retention purgedAt) clients
        first).roster.history.fetchAll = .ok one ∧
      (roster.trackAround epoch now (.purge retention purgedAt) clients
        second).roster.history.fetchAll = .ok other ∧
      (one.value.map Sighting.keyed).Perm (other.value.map Sighting.keyed) := by
  obtain ⟨one, tracked, mirrored⟩ := trackAround_mirrors fits convertible storable
    mirrors (.purge retention purgedAt) first
  obtain ⟨other, followed, matched⟩ := trackAround_mirrors fits convertible storable
    mirrors (.purge retention purgedAt) second
  obtain ⟨listed, keyed⟩ := mirrored.fetchAll_eq
  obtain ⟨shown, paired⟩ := matched.fetchAll_eq
  rw [tracked, followed]
  refine ⟨_, _, listed, shown, ?_⟩
  rw [keyed, paired]
  apply Index.perm_entries mirrored.distinct matched.distinct
  intro mac
  rw [Ledger.find?_around_purge mirrors.distinct recent,
    Ledger.find?_around_purge mirrors.distinct recent]

end Track

/-- It makes no difference to the history where a purge falls among the writes of a batch, if
its cutoff is not behind the time of the writes.  An address of the batch has what the last of
its leases says, another one what the purge spares of it, and no client of the batch is
lost. -/
theorem purge_position_irrelevant (path : String) (calls : List History.Call)
    (roster : Roster) (clients : List LiveClient) {epoch : Int} {now : Moment}
    (fits : fitsWord epoch = true) (convertible : now.toUniversal?.isSome = true)
    (storable : ∀ client ∈ clients, client.lease.isStorable = true)
    (retention : Option Duration) (purgedAt : Moment)
    (recent : ∀ cutoff, History.purgeCutoff? retention purgedAt = some cutoff →
      cutoff ≤ now.instant) :
    let start := roster.withHistory (History.Call.runAll (History.create path) calls)
    let outcome := start.trackAround epoch now (.purge retention purgedAt) clients
    (∀ position, (outcome position).fault = none ∧ (outcome position).notices = []) ∧
    (∀ position mac, (outcome position).roster.history.recorded? mac =
      (LiveClient.lastRecord? mac now epoch clients).or ((start.history.recorded? mac).filter
        (LedgerEntry.isSpared (History.purgeCutoff? retention purgedAt)))) ∧
    (∀ first second, ∃ one other,
      (outcome first).roster.history.fetchAll = .ok one ∧
      (outcome second).roster.history.fetchAll = .ok other ∧
      (one.value.map Sighting.keyed).Perm (other.value.map Sighting.keyed)) ∧
    ∀ position, ∀ client ∈ clients, ∃ entry,
      (outcome position).roster.history.recorded? client.lease.mac = some entry ∧
      entry.instant = now.instant ∧ entry.epoch = epoch := by
  intro start outcome
  have mirrors : start.history.Mirrors (History.Call.ledgerOf calls) :=
    History.mirrors_runAll path calls
  have answers := recorded?_trackAround fits convertible storable mirrors recent
  refine ⟨fun position => ?_, answers,
    fetchAll_trackAround fits convertible storable mirrors recent,
    fun position client member => ?_⟩
  · obtain ⟨history, tracked, _⟩ := trackAround_mirrors fits convertible storable
      mirrors (.purge retention purgedAt) position
    have done : outcome position = ⟨start.withHistory history, [], none⟩ := tracked
    rw [done]
    exact ⟨rfl, rfl⟩
  · have found : (LiveClient.lastRecord? client.lease.mac now epoch clients).isSome = true :=
      LiveClient.isSome_lastRecord? member
    obtain ⟨entry, last⟩ := Option.isSome_iff_exists.mp found
    obtain ⟨seen, _, _, rfl⟩ := LiveClient.eq_entryAt_of_lastRecord? last
    have answered := answers position client.lease.mac
    rw [last] at answered
    exact ⟨_, answered, rfl, rfl⟩

/-- The old row of a client is purged in front of its next write, or written anew before the
purge comes; the client is kept either way. -/
theorem stale_client_kept_around_purge :
    let lease : Lease := ⟨⟨List.replicate 12 7, rfl⟩, .v4 1, "printer", none, none⟩
    let clients : List LiveClient := [⟨lease, false, false, "", "lan"⟩]
    let seen : Moment := ⟨738900 * microsPerDay, some 0, by decide⟩
    let now : Moment := ⟨738946 * microsPerDay, some 0, by decide⟩
    let week : Duration := ⟨7 * microsPerDay, by decide⟩
    let calls : List History.Call := [.upsert lease.mac.toString (some "printer") seen 3]
    let start := (Roster.initial (History.create "clients.db")).withHistory
      (History.Call.runAll (History.create "clients.db") calls)
    let outcome := start.trackAround 4 now (.purge (some week) now) clients
    (History.Call.after start.history (.purge (some week) now)).recorded? lease.mac = none ∧
      fitsWord 4 = true ∧ now.toUniversal?.isSome = true ∧
      (∀ client ∈ clients, client.lease.isStorable = true) ∧
      (∀ cutoff, History.purgeCutoff? (some week) now = some cutoff → cutoff ≤ now.instant) ∧
      ∀ position, (outcome position).roster.history.recorded? lease.mac =
        some (lease.entryAt now 4) := by
  intro lease clients seen now week calls start outcome
  have stale : (History.Call.after start.history (.purge (some week) now)).recorded? lease.mac =
      none := by
    decide +kernel
  have fits : fitsWord 4 = true := by decide
  have convertible : now.toUniversal?.isSome = true := by decide
  have storable : ∀ client ∈ clients, client.lease.isStorable = true := by decide
  have recent : ∀ cutoff, History.purgeCutoff? (some week) now = some cutoff →
      cutoff ≤ now.instant := by
    have reached : History.purgeCutoff? (some week) now =
        some (738939 * microsPerDay : Int) := by
      decide
    intro cutoff same
    rw [reached, Option.some.injEq] at same
    subst same
    decide
  obtain ⟨_, answers, _⟩ := purge_position_irrelevant "clients.db" calls
    (Roster.initial (History.create "clients.db")) clients fits convertible storable
    (some week) now recent
  exact ⟨stale, fits, convertible, storable, recent, fun position =>
    (answers position lease.mac).trans rfl⟩

end Roster

end LeaseRoster
