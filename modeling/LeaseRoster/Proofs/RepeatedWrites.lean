import LeaseRoster.Proofs.AcceptedEpochs

/-!
# Writing the same sightings again

What is written about the leases of a batch depends on the clock, on the server run and on
whether the history is open, but not on the rows that are there.  Rows that are put once more,
in the same order, leave a table as it is, also when several of them are about one client.
-/

namespace LeaseRoster

namespace History

/-- Rows are put one after the other. -/
def putRows (written rows : List Row) : List Row :=
  written.foldl (fun rows row => putRow row rows) rows

/-- Whether some rows have a key. -/
def hasRow (key : Cell) (rows : List Row) : Bool := rows.any (hasKey key)

theorem hasKey_self {row : Row} (proper : row.mac ≠ .null) : hasKey row.mac row = true := by
  simp [hasKey, proper]

theorem hasKey_of_ne {row other : Row} (different : row.mac ≠ other.mac) :
    hasKey row.mac other = false := by
  simp [hasKey, different.symm]

theorem hasRow_putRow (key : Cell) (row : Row) (rows : List Row) :
    hasRow key (putRow row rows) = (hasKey key row || hasRow key rows) := by
  have found (rows : List Row) : hasRow key rows = (rows.find? (hasKey key)).isSome :=
    List.isSome_find?.symm
  rw [found, found, find?_putRow]
  cases hasKey key row <;> rfl

section Two

variable {first second : Row}

/-- A row that is put takes the place of one that was put under the same key before. -/
theorem putRow_putRow_of_eq (proper : first.mac ≠ .null) (same : second.mac = first.mac)
    (rows : List Row) : putRow second (putRow first rows) = putRow second rows := by
  have own : hasKey second.mac first = true := by rw [same]; exact hasKey_self proper
  induction rows with
  | nil => simp [putRow, own]
  | cons present rest ih =>
    rw [putRow, putRow, same]
    cases replaced : hasKey first.mac present with
    | true =>
      rw [if_pos rfl, if_pos rfl, putRow, if_pos own]
    | false =>
      rw [if_neg Bool.false_ne_true, if_neg Bool.false_ne_true, putRow, same, replaced,
        if_neg Bool.false_ne_true, ih]

/-- Rows under two keys can be put in either order if one of the keys is there already. -/
theorem putRow_comm (different : second.mac ≠ first.mac) {rows : List Row}
    (present : hasRow second.mac rows = true) :
    putRow second (putRow first rows) = putRow first (putRow second rows) := by
  induction rows with
  | nil => cases present
  | cons other rest ih =>
    have apart : hasKey second.mac other = true → hasKey first.mac other = false := by
      intro own
      have same : other.mac = second.mac := ((hasKey_iff second.mac other).mp own).1
      apply hasKey_of_ne
      rw [same]
      exact different.symm
    cases own : hasKey second.mac other with
    | true =>
      have foreign := apart own
      simp [putRow, own, foreign, hasKey_of_ne different.symm]
    | false =>
      have behind : hasRow second.mac rest = true := by simpa [hasRow, own] using present
      cases mine : hasKey first.mac other with
      | true => simp [putRow, own, mine, hasKey_of_ne different]
      | false => simp [putRow, own, mine, ih behind]

end Two

theorem hasRow_putRows {key : Cell} {rows : List Row} (present : hasRow key rows = true)
    (written : List Row) : hasRow key (putRows written rows) = true := by
  induction written generalizing rows with
  | nil => exact present
  | cons row rest ih =>
    apply ih
    rw [hasRow_putRow, present, Bool.or_true]

theorem hasRow_of_mem_putRows {written : List Row} {row : Row} (member : row ∈ written)
    (proper : row.mac ≠ .null) (rows : List Row) :
    hasRow row.mac (putRows written rows) = true := by
  induction written generalizing rows with
  | nil => cases member
  | cons other rest ih =>
    change hasRow row.mac (putRows rest (putRow other rows)) = true
    rcases List.mem_cons.mp member with rfl | behind
    · apply hasRow_putRows
      rw [hasRow_putRow, hasKey_self proper, Bool.true_or]
    · exact ih behind _

/-- A row that is put again behind others need not have been put before them, if those are all
in the table. -/
theorem putRow_putRows_putRow {last : Row} (proper : last.mac ≠ .null) {written : List Row}
    {rows : List Row} (present : ∀ row ∈ written, hasRow row.mac rows = true) :
    putRow last (putRows written (putRow last rows)) = putRow last (putRows written rows) := by
  induction written generalizing rows with
  | nil => exact putRow_putRow_of_eq proper rfl rows
  | cons row rest ih =>
    have still : ∀ other ∈ rest, hasRow other.mac (putRow row rows) = true := by
      intro other member
      rw [hasRow_putRow, present other (List.mem_cons_of_mem _ member), Bool.or_true]
    change putRow last (putRows rest (putRow row (putRow last rows))) =
      putRow last (putRows rest (putRow row rows))
    by_cases same : row.mac = last.mac
    · rw [putRow_putRow_of_eq proper same]
    · rw [putRow_comm same (present row List.mem_cons_self)]
      exact ih still

/-- Putting the same rows once more changes nothing. -/
theorem putRows_putRows {written : List Row} (proper : ∀ row ∈ written, row.mac ≠ .null)
    (rows : List Row) : putRows written (putRows written rows) = putRows written rows := by
  -- The last row is put twice, and in between all the earlier ones under keys that are there;
  -- so its first putting counts for nothing, and the earlier rows are put twice in a row.
  induction written using List.reverseRecOn with
  | nil => rfl
  | append_singleton earlier last ih =>
    have own : last.mac ≠ .null := proper last (by simp)
    have others : ∀ row ∈ earlier, row.mac ≠ .null := fun row member =>
      proper row (List.mem_append_left _ member)
    have present : ∀ row ∈ earlier, hasRow row.mac (putRows earlier rows) = true :=
      fun row member => hasRow_of_mem_putRows member (others row member) rows
    have split (rows : List Row) :
        putRows (earlier ++ [last]) rows = putRow last (putRows earlier rows) := by
      simp [putRows]
    rw [split, split, putRow_putRows_putRow own present, ih others]

end History

namespace Roster

/-- The sighting of a lease puts one row into every open table or fails at all of them, and at
every closed one. -/
theorem writeSighting_uniform (usable : Bool) (epoch : Int) (lease : Lease) (now : Moment) :
    (∃ row : Row, row.mac ≠ .null ∧ ∀ history : History, history.isOpen = usable →
      writeSighting epoch lease now history =
        .ok (history.withRows (History.putRow row history.rows))) ∨
    ∃ fault, ∀ history : History, history.isOpen = usable →
      writeSighting epoch lease now history = .error fault := by
  cases stored : now.storedText? with
  | none =>
    right
    exact ⟨.beyondRange, fun history _ => by simp [writeSighting, History.put, stored, throw,
      throwThe, MonadExceptOf.throw]⟩
  | some text =>
    cases usable with
    | false =>
      right
      exact ⟨.history (.upserting lease.mac.toString) .closed, fun history closed => by
        simp [writeSighting, History.put, stored, History.whenOpen, closed, bind, Except.bind]⟩
    | true =>
      cases name : Cell.ofText lease.reportedHostname with
      | error fault =>
        right
        exact ⟨fault, fun history opened => by
          simp [writeSighting, History.put, stored, History.whenOpen, opened, name, bind,
            Except.bind]⟩
      | ok cell =>
        cases fits : fitsWord epoch with
        | false =>
          right
          exact ⟨.beyondRange, fun history opened => by
            simp [writeSighting, History.put, stored, History.whenOpen, opened, name, fits, bind,
              Except.bind, throw, throwThe, MonadExceptOf.throw]⟩
        | true =>
          left
          have proper : (Row.ofSighting lease.mac cell text epoch).mac ≠ .null := by
            simp [Row.ofSighting]
          refine ⟨Row.ofSighting lease.mac cell text epoch, proper, fun history opened => ?_⟩
          simp [writeSighting, History.put, stored, History.whenOpen, opened, name, fits, bind,
            Except.bind, pure, Except.pure]

/-- What the rosters with a table of one kind come to: some rows are put, and one fault stops
the way there, if any does. -/
def PutsRows (usable : Bool) (does : Roster → Outcome) : Prop :=
  ∃ written fault, (∀ row ∈ written, row.mac ≠ .null) ∧
    ∀ roster : Roster, roster.history.isOpen = usable →
      (does roster).roster = roster.withHistory
          (roster.history.withRows (History.putRows written roster.history.rows)) ∧
        (does roster).fault = fault

theorem putsRows_sight (usable : Bool) (epoch : Int) (lease : Lease) (now : Moment) :
    PutsRows usable fun roster => roster.perform (writeSighting epoch) (.sight lease now) := by
  rcases writeSighting_uniform usable epoch lease now with ⟨row, proper, wrote⟩ | ⟨fault, failed⟩
  · refine ⟨[row], none, by simpa using proper, fun roster kind => ?_⟩
    have done : roster.perform (writeSighting epoch) (.sight lease now) =
        ⟨roster.withHistory
          (roster.history.withRows (History.putRow row roster.history.rows)), [], none⟩ := by
      simp [perform, sight, wrote roster.history kind, withHistory]
    dsimp only
    rw [done]
    exact ⟨rfl, rfl⟩
  · -- Only a fault of the history itself is passed over.
    by_cases reported : ∃ task cause, fault = .history task cause
    · obtain ⟨task, cause, rfl⟩ := reported
      refine ⟨[], none, by simp, fun roster kind => ?_⟩
      have done : roster.perform (writeSighting epoch) (.sight lease now) =
          ⟨roster, [.clientNotTracked lease.mac (.history task cause)], none⟩ := by
        simp [perform, sight, failed roster.history kind]
      dsimp only
      rw [done]
      exact ⟨rfl, rfl⟩
    · refine ⟨[], some fault, by simp, fun roster kind => ?_⟩
      simp only [perform, sight, failed roster.history kind]
      cases fault with
      | history task cause => exact absurd ⟨task, cause, rfl⟩ reported
      | _ => exact ⟨rfl, rfl⟩

/-- Tracking puts rows that do not depend on those that are there. -/
theorem putsRows_trackSteps (usable : Bool) (epoch : Int) (now : Moment)
    (clients : List LiveClient) :
    PutsRows usable fun roster =>
      roster.performAll (writeSighting epoch) (trackSteps now clients) := by
  induction clients with
  | nil => exact ⟨[], none, by simp, fun roster _ => ⟨rfl, rfl⟩⟩
  | cons client rest ih =>
    obtain ⟨first, stop, firstProper, sighted⟩ := putsRows_sight usable epoch client.lease now
    obtain ⟨others, fault, othersProper, tracked⟩ := ih
    have steps : trackSteps now (client :: rest) =
        .sight client.lease now :: trackSteps now rest := rfl
    cases stop with
    | some stopped =>
      refine ⟨first, some stopped, firstProper, fun roster kind => ?_⟩
      obtain ⟨next, ended⟩ := sighted roster kind
      dsimp only at next ended ⊢
      rw [steps, performAll, ended]
      exact ⟨next, rfl⟩
    | none =>
      refine ⟨first ++ others, fault, ?_, fun roster kind => ?_⟩
      · intro row member
        rcases List.mem_append.mp member with early | late
        · exact firstProper row early
        · exact othersProper row late
      · obtain ⟨next, goesOn⟩ := sighted roster kind
        obtain ⟨last, ended⟩ := tracked (roster.withHistory
          (roster.history.withRows (History.putRows first roster.history.rows))) kind
        dsimp only at next goesOn last ended ⊢
        rw [steps, performAll, goesOn, next]
        refine ⟨last.trans ?_, ended⟩
        simp [History.putRows, withHistory, History.withRows]

/-- Tracking the same clients again at the same time changes nothing, and it is stopped by the
same fault if at all. -/
theorem performAll_trackSteps_again (roster : Roster) (epoch : Int) (now : Moment)
    (clients : List LiveClient) :
    let done := roster.performAll (writeSighting epoch) (trackSteps now clients)
    let again := done.roster.performAll (writeSighting epoch) (trackSteps now clients)
    again.roster = done.roster ∧ again.fault = done.fault := by
  intro done again
  obtain ⟨written, fault, proper, tracked⟩ :=
    putsRows_trackSteps roster.history.isOpen epoch now clients
  obtain ⟨next, ended⟩ : done.roster = _ ∧ done.fault = fault := tracked roster rfl
  have kind : done.roster.history.isOpen = roster.history.isOpen := by
    rw [next]
    rfl
  obtain ⟨last, endedAgain⟩ : again.roster = _ ∧ again.fault = fault := tracked done.roster kind
  refine ⟨?_, endedAgain.trans ended.symm⟩
  rw [last, next]
  simp [withHistory, History.withRows, History.putRows_putRows proper]

end Roster

end LeaseRoster
