import LeaseRoster.Proofs.FieldStops
import LeaseRoster.Proofs.PurgedPastClients
import LeaseRoster.Proofs.SessionRuns
import Mathlib.Data.Int.Order.Basic

/-!
# Turns of the purge

A turn of the purge goes through over every history, whether or not its rows can be read or
scanned, open or closed, if the calendar reaches back from the clock by the retention.  It does
not reach back further than the start of year 1.  A retention that is longer than that is accepted by the
configuration, but the first turn with it ends the purge.
-/

namespace LeaseRoster

/-! ## Looking back -/

namespace Moment

/-- A moment has an earlier one at some distance if its clock has shown that much time. -/
theorem minus?_eq_none_iff (moment : Moment) {duration : Duration}
    (positive : 0 < duration.micros) :
    moment.minus? duration = none ↔ (moment.wall : Int) < duration.micros := by
  have inRange := moment.inRange
  unfold minus? of?
  by_cases early : (moment.wall : Int) < duration.micros
  · rw [if_neg (by omega)]
    exact iff_of_true rfl early
  · have fits : ((moment.wall : Int) - duration.micros).toNat < wallLimit := by omega
    rw [if_pos (by omega), dif_pos fits]
    exact iff_of_false nofun early

theorem instant_of_minus? {moment earlier : Moment} {duration : Duration}
    (reached : moment.minus? duration = some earlier) :
    earlier.instant = moment.instant - duration.micros := by
  obtain ⟨wall, offset⟩ := of?_eq_some reached
  simp only [instant, wall, offset]
  omega

end Moment

namespace Purge

/-- Whether the calendar reaches back from a clock by a retention, which one that asks for
nothing does not need. -/
def reaches (retention : Option Duration) (now : Moment) : Bool :=
  retention.all fun duration => duration.micros ≤ (now.wall : Int)

theorem reaches_eq_false_iff (retention : Option Duration) (now : Moment) :
    reaches retention now = false ↔
      ∃ duration, retention = some duration ∧ (now.wall : Int) < duration.micros := by
  cases retention with
  | none => simp [reaches]
  | some duration => simp [reaches]

theorem positive_of_asksForPurge {retention : Option Duration}
    (asks : History.asksForPurge retention = true) :
    ∃ duration, retention = some duration ∧ 0 < duration.micros := by
  simpa [History.asksForPurge, Option.any_eq_true] using asks

theorem reaches_of_declines {retention : Option Duration}
    (declines : History.asksForPurge retention = false) (now : Moment) :
    reaches retention now = true := by
  rw [← Bool.not_eq_false, reaches_eq_false_iff]
  rintro ⟨duration, rfl, short⟩
  simp [History.asksForPurge] at declines
  omega

/-! ## Single turns -/

/-- What a turn does that goes through: nothing without a retention that asks for it; over a
history that cannot be scanned, such as a closed one, it reports the failure; over any other it
removes the sightings from before the cutoff, in the order of their rows, and keeps the later
ones, but no row that makes no sighting. -/
inductive Serves (history : History) (retention : Option Duration) (now : Moment) (turn : Turn) :
    Prop
  | disabled (declines : History.asksForPurge retention = false)
      (still : turn = ⟨history, [], []⟩)
  | failed (cause : HistoryCause) (asks : History.asksForPurge retention = true)
      (fails : history.scanCause? = some cause)
      (reported : turn = ⟨history, [], [.purgeFailed (.history .purging cause)]⟩)
  | purged (duration : Duration) (asks : retention = some duration)
      (positive : 0 < duration.micros) (sound : history.scanCause? = none)
      (removed : turn.removed = (history.rows.filterMap Row.sighting?).filter fun sighting =>
        !sighting.isSince (now.instant - duration.micros))
      (kept : turn.history.rows.filterMap Row.sighting? =
        (history.rows.filterMap Row.sighting?).filter fun sighting =>
          sighting.isSince (now.instant - duration.micros))
      (readable : ∀ row ∈ turn.history.rows, row.sighting?.isSome = true)
      (opened : turn.history.isOpen = true)

theorem removed_purgeBefore (history : History) (cutoff : Int) :
    (history.purgeBefore cutoff).removed =
      (history.rows.filterMap Row.sighting?).filter fun sighting =>
        !sighting.isSince cutoff := by
  rw [History.purgeBefore, List.filterMap_filter, List.filter_filterMap]
  refine List.filterMap_congr fun row _ => ?_
  cases made : row.sighting? with
  | none => simp [History.isBefore, made]
  | some sighting =>
    by_cases early : sighting.lastSeen.instant < cutoff
    · simp [History.isBefore, made, Option.filter, Sighting.isSince, early]
    · simp [History.isBefore, made, Option.filter, Sighting.isSince, early, not_lt.mp early]

theorem isSome_of_mem_purgeBefore {history : History} {cutoff : Int} {row : Row}
    (member : row ∈ (history.purgeBefore cutoff).history.rows) :
    row.sighting?.isSome = true := by
  have kept : History.isKept cutoff row = true := (List.mem_filter.mp member).2
  cases made : row.sighting? with
  | none => simp [History.isKept, made] at kept
  | some sighting => rfl

theorem once_of_declines {retention : Option Duration}
    (declines : History.asksForPurge retention = false) (history : History) (now : Moment) :
    once history retention now = .ok ⟨history, [], []⟩ := by
  simp [once, declines]

section Asked

variable {duration : Duration} (positive : 0 < duration.micros)
include positive

theorem asksForPurge_of_positive : History.asksForPurge (some duration) = true := by
  simp [History.asksForPurge, positive]

theorem once_beyond {now : Moment} (short : (now.wall : Int) < duration.micros)
    (history : History) : once history (some duration) now = .error .beyondRange := by
  have asks := asksForPurge_of_positive positive
  have declines : ¬ duration.micros ≤ 0 := not_le.mpr positive
  have unreached := (now.minus?_eq_none_iff positive).mpr short
  simp [once, asks, History.purgeOlderThan, declines, unreached]

/-- A turn that has a cutoff serves the retention, whether or not the history can be scanned. -/
theorem once_within {now cutoff : Moment} (reached : now.minus? duration = some cutoff)
    (history : History) :
    ∃ turn, once history (some duration) now = .ok turn ∧
      Serves history (some duration) now turn := by
  have asks := asksForPurge_of_positive positive
  have purges := history.purgeOlderThan_eq positive reached
  cases scanned : history.scanCause? with
  | some cause =>
    rw [scanned] at purges
    refine ⟨_, ?_, .failed cause asks scanned rfl⟩
    simp [once, asks, purges]
  | none =>
    rw [scanned] at purges
    let purged := history.purgeBefore cutoff.instant
    have instant := Moment.instant_of_minus? reached
    have usable := ((history.scanCause?_eq_none_iff).mp scanned).1
    refine ⟨⟨purged.history, purged.removed,
      purged.notices ++ removedNotices (some duration) purged.removed⟩, ?_, ?_⟩
    · simp [once, asks, purges, purged]
    · refine .purged duration rfl positive scanned ?_ ?_ ?_ usable
      · rw [← instant]
        exact removed_purgeBefore history cutoff.instant
      · rw [← instant]
        exact History.sightings_purgeBefore history cutoff.instant
      · exact fun row => isSome_of_mem_purgeBefore

end Asked

/-- A turn is stopped where the calendar does not reach back by the retention, and serves it
everywhere else. -/
theorem once_cases (history : History) (retention : Option Duration) (now : Moment) :
    (reaches retention now = false ∧ once history retention now = .error .beyondRange) ∨
      (reaches retention now = true ∧
        ∃ turn, once history retention now = .ok turn ∧ Serves history retention now turn) := by
  cases asks : History.asksForPurge retention with
  | false =>
    have reached := reaches_of_declines asks now
    exact Or.inr ⟨reached, _, once_of_declines asks history now, .disabled asks rfl⟩
  | true =>
    obtain ⟨duration, rfl, positive⟩ := positive_of_asksForPurge asks
    cases reached : now.minus? duration with
    | none =>
      have short := (now.minus?_eq_none_iff positive).mp reached
      exact Or.inl ⟨(reaches_eq_false_iff _ now).mpr ⟨duration, rfl, short⟩,
        once_beyond positive short history⟩
    | some cutoff =>
      refine Or.inr ⟨?_, once_within positive reached history⟩
      rw [← Bool.not_eq_false, reaches_eq_false_iff]
      rintro ⟨_, ⟨rfl⟩, short⟩
      rw [(now.minus?_eq_none_iff positive).mpr short] at reached
      cases reached

end Purge

/-! ## Rows that make no sighting -/

/-- Only the hardware address stops the reading of a sighting. -/
theorem Sighting.stop?_fields (record : Datum) :
    (fields record).stop? = (record.get? "mac").bind Field.foreignMac? := by
  simp [fields, Field.stop?_of_mild, Field.mild_text, Field.mild_moment, Field.mild_integer]

namespace Row

/-- The faults that pass over a row: they say that its values are malformed. -/
inductive Malformed : Fault → Prop
  | value (fault : ValueFault) : Malformed (.value fault)
  | invalid (faults : List FieldFault) : Malformed (.invalid faults)
  | wrongKind : Malformed .wrongKind

theorem Malformed.of_momentOf {cell : Cell} {fault : Fault}
    (fails : momentOf cell = .error fault) : Malformed fault := by
  unfold momentOf at fails
  split at fails
  · split at fails
    · cases fails
    · cases fails
      exact .value _
  · cases fails
    exact .wrongKind

/-- A column of texts turns numbers into texts, so that only bytes are foreign to it. -/
theorem Malformed.of_foreignMac? {cell : Cell} (column : cell.inTextColumn = cell)
    {fault : Fault} (foreign : Field.foreignMac? cell.toDatum = some fault) :
    Malformed fault := by
  cases cell with
  | null => cases foreign
  | integer value => cases column
  | real value => cases column
  | text value => cases foreign
  | bytes value =>
    cases foreign
    exact .wrongKind

/-- Whatever a column of texts can hold in place of a hardware address, a row that makes no
sighting is malformed. -/
theorem malformed_of_sighting {row : Row} (column : row.mac.inTextColumn = row.mac)
    {fault : Fault} (fails : row.sighting = .error fault) : Malformed fault := by
  unfold sighting at fails
  cases read : momentOf row.lastSeen with
  | error early =>
    rw [read] at fails
    cases fails
    exact .of_momentOf read
  | ok lastSeen =>
    rw [read] at fails
    rcases (Checked.result_error_iff _ _).mp fails with stops | ⟨faults, -, rfl⟩
    · rw [Sighting.stop?_fields] at stops
      exact .of_foreignMac? column stops
    · exact .invalid faults

end Row

/-! ## Loops of turns -/

namespace Schedule.Session

section Loop

variable {retention : Option Duration}

theorem purgeOnce_goes_on {session : Session}
    (reached : Purge.reaches retention session.clock = true) :
    ∃ next answer, session.purgeOnce retention = (next, .ok answer) := by
  rcases Purge.once_cases session.roster.history retention session.clock with
    ⟨short, -⟩ | ⟨-, turn, served, -⟩
  · rw [reached] at short
    cases short
  · rw [purgeOnce, served]
    exact ⟨_, _, rfl⟩

theorem purgeOnce_stops {session : Session}
    (short : Purge.reaches retention session.clock = false) :
    session.purgeOnce retention = (session, .error .beyondRange) := by
  rcases Purge.once_cases session.roster.history retention session.clock with
    ⟨-, stopped⟩ | ⟨reached, -⟩
  · rw [purgeOnce, stopped]
  · rw [reached] at short
    cases short

/-- While the calendar reaches back from every clock by the retention, the purge takes its
turn before every round and after the last one, whatever the rounds do to the history. -/
theorem purgeRounds_goes_on {reconciler : Reconciler} {rounds : List (List Action)}
    {session : Session}
    (steady : session.Steady (Purge.reaches retention) (fun _ => true) reconciler)
    (kind : Action.areRoundsSteady (Purge.reaches retention) (fun _ => true) rounds = true)
    (reports : List (List Report)) :
    ∃ next answers, session.purgeRounds retention reports rounds =
        (next, .ok (.rounds answers)) ∧
      answers.length = reports.length + rounds.length := by
  obtain ⟨next, answer, purged⟩ := purgeOnce_goes_on steady.clocked
  induction rounds generalizing session reports next answer with
  | nil =>
    rw [purgeRounds, purged]
    exact ⟨next, reports, rfl, rfl⟩
  | cons round rest ih =>
    rw [Action.areRoundsSteady, Bool.and_eq_true] at kind
    -- Neither the turn nor the round sets the clock to where the calendar falls short.
    have between : next.Steady (Purge.reaches retention) (fun _ => true) reconciler := by
      have kept := (session.frames_purgeOnce retention).steady steady
      rwa [purged] at kept
    have after := between.runAll round kind.1
    obtain ⟨later, laterAnswer, laterPurged⟩ := purgeOnce_goes_on after.clocked
    obtain ⟨last, answers, looped, counted⟩ :=
      ih after kind.2 (reports ++ [(next.runAll round).1]) later laterAnswer laterPurged
    refine ⟨last, answers, ?_, ?_⟩
    · rw [purgeRounds, purged]
      exact looped
    · rw [counted]
      simp
      omega

/-- The first turn that the calendar does not reach back for ends the purge. -/
theorem purgeRounds_stops (session : Session)
    (short : Purge.reaches retention session.clock = false) (reports : List (List Report))
    (rounds : List (List Action)) :
    session.purgeRounds retention reports rounds = (session, .error .beyondRange) := by
  cases rounds with
  | nil => rw [purgeRounds, purgeOnce_stops short]
  | cons round rest => rw [purgeRounds, purgeOnce_stops short]

end Loop

end Schedule.Session

namespace Purge

open Schedule Session

/-- Whatever the rows of a history are, whether they can be scanned and whether it is open: a turn
of the purge serves its retention if the calendar reaches back by it, and otherwise it is stopped, which ends the
loop of turns.  A row that makes no sighting never stops a turn, since it can only be
malformed. -/
theorem turn_serves_within_calendar (retention : Option Duration) :
    (∀ (history : History) (now : Moment),
      (reaches retention now = true ∧
        ∃ turn, once history retention now = .ok turn ∧ Serves history retention now turn) ∨
      (reaches retention now = false ∧ once history retention now = .error .beyondRange)) ∧
    (∀ (row : Row) (fault : Fault), row.mac.inTextColumn = row.mac →
      row.sighting = .error fault → Row.Malformed fault) ∧
    (∀ (session : Session) (interval : Datum) (rounds : List (List Action)),
      reaches retention session.clock = true →
      Action.areRoundsSteady (reaches retention) (fun _ => true) rounds = true →
      ∃ next answers, session.run (.purgeLoop retention interval rounds) =
          (next, .ok (.rounds answers)) ∧
        answers.length = if History.asksForPurge retention then rounds.length else 0) ∧
    (∀ (session : Session) (interval : Datum) (rounds : List (List Action)),
      reaches retention session.clock = false →
      ∃ next, session.run (.purgeLoop retention interval rounds) =
        (next, .error .beyondRange)) := by
  refine ⟨?_, ?_, ?_, ?_⟩
  · intro history now
    exact (once_cases history retention now).symm
  · intro row fault column fails
    exact Row.malformed_of_sighting column fails
  · intro session interval rounds reached kind
    rw [Session.run]
    cases asks : History.asksForPurge retention with
    | false => exact ⟨_, [], rfl, rfl⟩
    | true =>
      have started : (session.note [startNotice retention interval]).Steady
          (reaches retention) (fun _ => true) session.reconciler :=
        ⟨rfl, reached, fun _ _ => rfl⟩
      obtain ⟨next, answers, looped, counted⟩ := purgeRounds_goes_on started kind []
      refine ⟨next, answers, looped, ?_⟩
      rw [counted]
      simp
  · intro session interval rounds short
    obtain ⟨duration, rfl, early⟩ := (reaches_eq_false_iff retention session.clock).mp short
    have asks := asksForPurge_of_positive (show 0 < duration.micros by omega)
    rw [Session.run, if_pos asks]
    exact ⟨_, purgeRounds_stops (session.note _) short [] rounds⟩

/-- Thirty days before the year 2024 are in the calendar: the purge takes its turns also
when the history is closed meanwhile, and bytes in place of a hardware address are
malformed. -/
theorem turns_of_thirty_days :
    let retention : Option Duration := some ⟨30 * microsPerDay, by decide⟩
    let now : Moment := ⟨738946 * microsPerDay, some 0, by decide⟩
    let row : Row := ⟨.bytes (.blob [1, 2]), .null, .text "2024-03-01T00:00:00", .integer 2⟩
    let history : History := ⟨"clients.db", [row], true⟩
    let reconciler : Reconciler := ⟨⟨[]⟩, .empty, 7, "lan", 1⟩
    let session : Session := ⟨now, reconciler, Roster.initial history, Index.empty, false, [], []⟩
    (∃ turn, once history retention now = .ok turn ∧ Serves history retention now turn) ∧
      Row.Malformed .wrongKind ∧
      ∃ next answers, session.run (.purgeLoop retention .null [[.close], [.setClock now]]) =
          (next, .ok (.rounds answers)) ∧ answers.length = 2 := by
  intro retention now row history reconciler session
  obtain ⟨turns, rows, loops, -⟩ := turn_serves_within_calendar retention
  have reached : reaches retention now = true := by decide
  refine ⟨?_, ?_, ?_⟩
  · rcases turns history now with ⟨-, served⟩ | ⟨short, -⟩
    · exact served
    · rw [reached] at short
      cases short
  · exact rows row .wrongKind rfl (by decide +kernel)
  · exact loops session .null _ reached (by decide)

/-- A retention of three thousand years is accepted by the configuration, but in the year
2024 the first turn with it is stopped, over an open history without any rows, and the loop
of turns ends. -/
theorem retention_beyond_calendar_stops_turn :
    let duration : Duration := ⟨1095000 * microsPerDay, by decide⟩
    let now : Moment := ⟨738946 * microsPerDay, some 0, by decide⟩
    let history := History.create "clients.db"
    let reconciler : Reconciler := ⟨⟨[]⟩, .empty, 7, "lan", 1⟩
    let session : Session := ⟨now, reconciler, Roster.initial history, Index.empty, false, [], []⟩
    let configuration : Datum :=
      .mapping [(.text "forget_past_clients_after", .text "3000y")]
    (ServerOptions.read configuration).result.map ServerOptions.retention =
        .ok (some duration) ∧
      history.isOpen = true ∧ once history (some duration) now = .error .beyondRange ∧
      ∃ next, session.run (.purgeLoop (some duration) (.whole 3600) [[], []]) =
        (next, .error .beyondRange) := by
  intro duration now history reconciler session configuration
  have accepted : (ServerOptions.read configuration).result.map ServerOptions.retention =
      .ok (some duration) := by
    decide +kernel
  have short : reaches (some duration) now = false := by decide
  refine ⟨accepted, rfl, ?_, ?_⟩
  · rcases once_cases history (some duration) now with ⟨-, stopped⟩ | ⟨reached, -⟩
    · exact stopped
    · rw [reached] at short
      cases short
  · rw [Session.run]
    exact ⟨_, purgeRounds_stops (session.note _) short [] [[], []]⟩

end Purge

end LeaseRoster
