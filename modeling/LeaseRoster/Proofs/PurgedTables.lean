import LeaseRoster.Proofs.TableRows
import Mathlib.Data.List.Perm.Basic

/-!
# Purges of any table

A purge fetches all rows and then deletes them one by one, each by what stands in its column
of addresses.  Such a deletion takes every row with the same cell: all rows without an address
go together, but then none of them can be read, and a row with an address is the only one
under it.  So the sweep leaves exactly the rows that a filter leaves, and purges with several
cutoffs come to one purge with the latest.
-/

namespace LeaseRoster

namespace History

/-! ## Row by row -/

/-- The rows that a sweep has left so far, and the sightings that it has removed. -/
structure Sweep where
  rows : List Row
  removed : List Sighting

/-- The rows without those under a key, where null is a key as any other. -/
def deleteKey (key : Cell) (rows : List Row) : List Row := rows.filter fun row => row.mac != key

/-- A fetched row is looked at: it is deleted if it makes no sighting or an early one. -/
def sweepRow (cutoff : Int) (sweep : Sweep) (row : Row) : Sweep :=
  match row.sighting? with
  | none => ⟨deleteKey row.mac sweep.rows, sweep.removed⟩
  | some sighting =>
    if sighting.lastSeen.instant < cutoff then
      ⟨deleteKey row.mac sweep.rows, sweep.removed ++ [sighting]⟩
    else sweep

/-- All rows are fetched and then looked at one after the other. -/
def sweepRows (cutoff : Int) (rows : List Row) : Sweep :=
  rows.foldl (sweepRow cutoff) ⟨rows, []⟩

/-- Whether one of some fetched rows takes all rows under a key away. -/
def isSwept (cutoff : Int) (fetched : List Row) (key : Cell) : Bool :=
  fetched.any fun row => row.mac == key && !isKept cutoff row

theorem removed_sweepRow (cutoff : Int) (sweep : Sweep) (row : Row) :
    (sweepRow cutoff sweep row).removed =
      sweep.removed ++ ([row].filter (isBefore cutoff)).filterMap Row.sighting? := by
  cases made : row.sighting? with
  | none => simp [sweepRow, isBefore, made]
  | some sighting =>
    by_cases early : sighting.lastSeen.instant < cutoff <;>
      simp [sweepRow, isBefore, made, early]

theorem rows_sweepRow (cutoff : Int) (sweep : Sweep) (row : Row) :
    (sweepRow cutoff sweep row).rows =
      sweep.rows.filter fun other => !isSwept cutoff [row] other.mac := by
  have deleted : deleteKey row.mac sweep.rows =
      sweep.rows.filter fun other => !(row.mac == other.mac) := by
    refine List.filter_congr fun other _ => ?_
    rw [bne, BEq.comm]
  cases made : row.sighting? with
  | none => simp [sweepRow, isSwept, isKept, made, deleted]
  | some sighting =>
    by_cases early : sighting.lastSeen.instant < cutoff
    · have late : ¬ cutoff ≤ sighting.lastSeen.instant := not_le.mpr early
      simp [sweepRow, isSwept, isKept, made, early, late, deleted]
    · have late : cutoff ≤ sighting.lastSeen.instant := not_lt.mp early
      simp [sweepRow, isSwept, isKept, made, early, late]

/-- A sweep over any fetched rows removes the early ones among them and leaves the rows that
none of them takes away. -/
theorem foldl_sweepRow (cutoff : Int) (fetched : List Row) (sweep : Sweep) :
    (fetched.foldl (sweepRow cutoff) sweep).rows =
        sweep.rows.filter (fun row => !isSwept cutoff fetched row.mac) ∧
      (fetched.foldl (sweepRow cutoff) sweep).removed =
        sweep.removed ++ (fetched.filter (isBefore cutoff)).filterMap Row.sighting? := by
  induction fetched generalizing sweep with
  | nil => simp [isSwept]
  | cons row rest ih =>
    obtain ⟨rows, removed⟩ := ih (sweepRow cutoff sweep row)
    rw [List.foldl_cons, rows, removed, rows_sweepRow, removed_sweepRow, List.filter_filter]
    constructor
    · refine List.filter_congr fun other _ => ?_
      simp [isSwept, Bool.and_comm]
    · rw [List.append_assoc, ← List.filterMap_append, ← List.filter_append]
      rfl

section Table

variable {rows : List Row} (table : IsTable rows)
include table

/-- A cell that is not null stands in one row only. -/
theorem IsTable.eq_of_mac {row other : Row} (member : row ∈ rows) (present : other ∈ rows)
    (same : other.mac = row.mac) (proper : row.mac ≠ .null) : other = row := by
  have distinct := table.distinct
  rw [List.filter_map] at distinct
  apply List.inj_on_of_nodup_map distinct
  · simpa [List.mem_filter, same] using ⟨present, proper⟩
  · simpa [List.mem_filter] using ⟨member, proper⟩
  · exact same

/-- A row of a table is taken away exactly if it is not kept for its own sake. -/
theorem IsTable.isSwept_eq {row : Row} (member : row ∈ rows) (cutoff : Int) :
    isSwept cutoff rows row.mac = !isKept cutoff row := by
  cases kept : isKept cutoff row with
  | false =>
    rw [isSwept, Bool.not_false, List.any_eq_true]
    exact ⟨row, member, by simp [kept]⟩
  | true =>
    obtain ⟨sighting, made, -⟩ : ∃ sighting, row.sighting? = some sighting ∧
        cutoff ≤ sighting.lastSeen.instant := by
      simpa [isKept, Option.any_eq_true] using kept
    -- A row that is kept can be read, so that it has an address and no other row shares it.
    have proper : row.mac ≠ .null := by
      intro missing
      have spelled := Row.address?_of_sighting? made
      simp [Row.address?, missing] at spelled
    rw [isSwept, Bool.not_true, List.any_eq_false]
    intro other present
    by_cases same : other.mac = row.mac
    · obtain rfl := table.eq_of_mac member present same proper
      simp [kept]
    · simp [same]

/-- The sweep over a table does what a purge does: nothing that should stay goes with another
row, and nothing that should go stays. -/
theorem IsTable.sweepRows_eq (cutoff : Int) :
    sweepRows cutoff rows =
      ⟨rows.filter (isKept cutoff), (rows.filter (isBefore cutoff)).filterMap Row.sighting?⟩ := by
  obtain ⟨left, removed⟩ := foldl_sweepRow cutoff rows ⟨rows, []⟩
  have kept : rows.filter (fun row => !isSwept cutoff rows row.mac) =
      rows.filter (isKept cutoff) := by
    refine List.filter_congr fun row member => ?_
    rw [table.isSwept_eq member, Bool.not_not]
  rw [kept] at left
  rw [List.nil_append] at removed
  calc sweepRows cutoff rows
      = ⟨(sweepRows cutoff rows).rows, (sweepRows cutoff rows).removed⟩ := rfl
    _ = _ := by rw [sweepRows, left, removed]

end Table

/-! ## Several purges -/

theorem isKept_max (first second : Int) (row : Row) :
    isKept (max first second) row = (isKept first row && isKept second row) := by
  cases made : row.sighting? with
  | none => simp [isKept, made]
  | some sighting => simp [isKept, made]

theorem purgeBefore_purgeBefore (history : History) (first second : Int) :
    ((history.purgeBefore first).history.purgeBefore second).history =
      (history.purgeBefore (max first second)).history := by
  have twice : (history.rows.filter (isKept first)).filter (isKept second) =
      history.rows.filter (isKept (max first second)) := by
    rw [List.filter_filter]
    refine List.filter_congr fun row _ => ?_
    rw [isKept_max, Bool.and_comm]
  simp only [purgeBefore, withRows, twice]

/-- What two purges remove is what one purge with the later cutoff removes. -/
theorem removed_twice_perm (history : History) (first second : Int) :
    ((history.purgeBefore first).removed ++
        ((history.purgeBefore first).history.purgeBefore second).removed).Perm
      (history.purgeBefore (max first second)).removed := by
  have since (sighting : Sighting) : sighting.isSince (max first second) =
      (sighting.isSince first && sighting.isSince second) := by
    simp [Sighting.isSince]
  -- The first purge removes one half of the early sightings, and the second one the other.
  let early := (history.rows.filterMap Row.sighting?).filter fun sighting =>
    !sighting.isSince (max first second)
  have inFirst : (history.purgeBefore first).removed =
      early.filter fun sighting => !sighting.isSince first := by
    rw [Purge.removed_purgeBefore, List.filter_filter]
    refine List.filter_congr fun sighting _ => ?_
    rw [since]
    cases sighting.isSince first <;> rfl
  have inSecond : ((history.purgeBefore first).history.purgeBefore second).removed =
      early.filter fun sighting => !!sighting.isSince first := by
    rw [Purge.removed_purgeBefore, sightings_purgeBefore, List.filter_filter, List.filter_filter]
    refine List.filter_congr fun sighting _ => ?_
    rw [since]
    cases sighting.isSince first <;> simp
  rw [inFirst, inSecond, Purge.removed_purgeBefore]
  exact List.filter_append_perm _ early

/-- A retention is positive and the calendar reaches back by it from a clock to a cutoff. -/
structure CutsAt (retention : Duration) (now : Moment) (cutoff : Int) : Prop where
  positive : 0 < retention.micros
  reached : (now.minus? retention).map Moment.instant = some cutoff

section Cutoff

variable {retention : Duration} {now : Moment} {cutoff : Int} (cuts : CutsAt retention now cutoff)
include cuts

theorem CutsAt.cutoff_eq : cutoff = now.instant - retention.micros := by
  obtain ⟨moment, reached, rfl⟩ := Option.map_eq_some_iff.mp cuts.reached
  exact Moment.instant_of_minus? reached

theorem CutsAt.purgeOlderThan_eq (history : History) :
    history.purgeOlderThan (some retention) now =
      match history.scanCause? with
      | some cause => .error (.history .purging cause)
      | none => .ok (history.purgeBefore cutoff) := by
  obtain ⟨moment, reached, rfl⟩ := Option.map_eq_some_iff.mp cuts.reached
  exact history.purgeOlderThan_eq cuts.positive reached

theorem CutsAt.purgeOlderThan_eq_ok {history : History} (sound : history.scanCause? = none) :
    history.purgeOlderThan (some retention) now = .ok (history.purgeBefore cutoff) := by
  rw [cuts.purgeOlderThan_eq history, sound]

end Cutoff

end History

end LeaseRoster
