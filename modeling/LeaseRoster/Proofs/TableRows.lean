import LeaseRoster.Proofs.AcceptedEpochs
import LeaseRoster.Proofs.PurgeTurns
import Mathlib.Logic.Relation

/-!
# Rows that a table can hold

Other programs may write to the table what its columns take: addresses in any spelling,
several of one client, rows without an address, times and numbers that cannot be read.  Two
things hold all the same.  No number stays in the column of addresses, and no two rows with
an address have the same one in it, letter by letter.

Laws of tables ask for these two things only.  That every history which can be reached has them,
`History.isTable_of_reachable`, is why they ask for nothing that may fail.
-/

namespace LeaseRoster

/-! ## Tables -/

namespace Cell

theorem inTextColumn_inTextColumn (cell : Cell) :
    cell.inTextColumn.inTextColumn = cell.inTextColumn := by
  cases cell <;> rfl

end Cell

namespace History

/-- Rows that the table can hold: the column of addresses has turned numbers into texts, and
it has nothing twice but null. -/
structure IsTable (rows : List Row) : Prop where
  columns : ∀ row ∈ rows, row.mac.inTextColumn = row.mac
  distinct : ((rows.map Row.mac).filter (· ≠ .null)).Nodup

theorem isTable_nil : IsTable [] := ⟨by simp, by simp⟩

section Table

variable {rows : List Row} (table : IsTable rows)
include table

theorem IsTable.of_sublist {others : List Row} (part : others.Sublist rows) : IsTable others :=
  ⟨fun row member => table.columns row (part.subset member),
    table.distinct.sublist ((part.map Row.mac).filter _)⟩

theorem IsTable.of_macs {others : List Row} (same : others.map Row.mac = rows.map Row.mac) :
    IsTable others := by
  refine ⟨fun row member => ?_, same ▸ table.distinct⟩
  obtain ⟨other, present, alike⟩ := List.mem_map.mp (same ▸ List.mem_map_of_mem member)
  rw [← alike]
  exact table.columns other present

theorem IsTable.append {row : Row} (column : row.mac.inTextColumn = row.mac)
    (absent : rows.any (hasKey row.mac) = false) : IsTable (rows ++ [row]) := by
  refine ⟨fun other member => ?_, ?_⟩
  · rcases List.mem_append.mp member with earlier | last
    · exact table.columns other earlier
    · rwa [List.mem_singleton.mp last]
  · rw [List.map_append, List.filter_append, List.nodup_append]
    refine ⟨table.distinct, List.Nodup.filter _ (List.nodup_singleton _), ?_⟩
    intro key earlier last own same
    obtain ⟨-, present⟩ := List.mem_filter.mp earlier
    obtain ⟨other, member, rfl⟩ := List.mem_map.mp (List.mem_filter.mp earlier).1
    obtain rfl : last = row.mac := List.mem_singleton.mp (List.mem_filter.mp own).1
    have found := List.any_eq_false.mp absent other member
    exact found (by simpa [hasKey, same] using present)

end Table

theorem putRow_of_absent {row : Row} {rows : List Row}
    (absent : rows.any (hasKey row.mac) = false) : putRow row rows = rows ++ [row] := by
  induction rows with
  | nil => rfl
  | cons present rest ih =>
    simp only [List.any_cons, Bool.or_eq_false_iff] at absent
    rw [putRow, absent.1, if_neg Bool.false_ne_true, ih absent.2, List.cons_append]

theorem map_mac_putRow {row : Row} {rows : List Row}
    (present : rows.any (hasKey row.mac) = true) :
    (putRow row rows).map Row.mac = rows.map Row.mac := by
  induction rows with
  | nil => cases present
  | cons other rest ih =>
    rw [putRow]
    cases own : hasKey row.mac other with
    | true =>
      have same : other.mac = row.mac := ((hasKey_iff row.mac other).mp own).1
      simp [same]
    | false =>
      simp only [List.any_cons, own, Bool.false_or] at present
      simp [ih present]

/-- A row that is put takes the place of the only one under its key, or it comes last. -/
theorem IsTable.putRow {rows : List Row} (table : IsTable rows) {row : Row}
    (column : row.mac.inTextColumn = row.mac) : IsTable (History.putRow row rows) := by
  cases present : rows.any (hasKey row.mac) with
  | false =>
    rw [putRow_of_absent present]
    exact table.append column present
  | true => exact table.of_macs (map_mac_putRow present)

/-! ## Tables of histories -/

/-- A history with a row put that has a proper key. -/
def Puts (history next : History) : Prop :=
  ∃ row, row.mac.inTextColumn = row.mac ∧
    next = history.withRows (History.putRow row history.rows)

theorem puts_of_put {history next : History} {mac : MacAddress} {hostname : String}
    {lastSeen : Moment} {epoch : Int}
    (written : history.put mac hostname lastSeen epoch = .ok next) : history.Puts next := by
  unfold put at written
  simp only [bind, Except.bind, throw, throwThe, MonadExceptOf.throw] at written
  repeat' split at written
  all_goals cases written
  exact ⟨_, rfl, rfl⟩

theorem puts_of_upsert {history next : History} {mac hostname lastSeen epoch : Datum}
    (written : history.upsert mac hostname lastSeen epoch = .ok next) : history.Puts next := by
  unfold upsert at written
  simp only [bind, Except.bind, throw, throwThe, MonadExceptOf.throw] at written
  repeat' split at written
  all_goals cases written
  exact ⟨_, rfl, rfl⟩

theorem inTextColumn_of_ofData {mac hostname lastSeen epoch : Datum} {row : Row}
    (made : Row.ofData mac hostname lastSeen epoch = .ok row) :
    row.mac.inTextColumn = row.mac := by
  unfold Row.ofData at made
  simp only [bind, Except.bind, throw, throwThe, MonadExceptOf.throw] at made
  repeat' split at made
  all_goals cases made
  exact Cell.inTextColumn_inTextColumn _

/-- What leads from one state of a history to another one, in whatever program.  A row that is left
by another one may hold garbled texts. -/
inductive Leads (history : History) : History → Prop
  | put {mac : MacAddress} {hostname : String} {lastSeen : Moment} {epoch : Int}
      {next : History} (written : history.put mac hostname lastSeen epoch = .ok next) :
      Leads history next
  | upserted {mac hostname lastSeen epoch : Datum} {next : History}
      (written : history.upsert mac hostname lastSeen epoch = .ok next) : Leads history next
  | inserted {mac hostname lastSeen epoch : Datum} {next : History}
      (written : history.insertRow mac hostname lastSeen epoch = .ok next) : Leads history next
  | left {row : Row} (column : row.mac.inTextColumn = row.mac)
      (absent : history.rows.any (hasKey row.mac) = false) :
      Leads history (history.withRows (history.rows ++ [row]))
  | purged {retention : Option Duration} {now : Moment} {purged : Purged}
      (purges : history.purgeOlderThan retention now = .ok purged) : Leads history purged.history
  | closed : Leads history history.close
  | reopened : Leads history history.reopen

theorem IsTable.of_leads {history next : History} (table : IsTable history.rows)
    (leads : history.Leads next) : IsTable next.rows := by
  have putting (puts : history.Puts next) : IsTable next.rows := by
    obtain ⟨row, column, rfl⟩ := puts
    exact table.putRow column
  cases leads with
  | put written => exact putting (puts_of_put written)
  | upserted written => exact putting (puts_of_upsert written)
  | inserted written =>
    unfold insertRow at written
    simp only [bind, Except.bind] at written
    split at written
    · cases written
    · split at written
      · cases written
      · rename_i row made
        split at written
        · cases written
        · rename_i absent
          cases written
          exact table.append (inTextColumn_of_ofData made) (Bool.eq_false_iff.mpr absent)
  | left column absent => exact table.append column absent
  | purged purges =>
    obtain rfl | ⟨cutoff, rfl⟩ := purgeOlderThan_cases purges
    · exact table
    · exact table.of_sublist List.filter_sublist
  | closed => exact table
  | reopened =>
    unfold reopen
    split
    · exact isTable_nil
    · exact table

/-- Every state that a new history can come to has a table. -/
theorem isTable_of_reachable {path : String} {history : History}
    (reached : Relation.ReflTransGen Leads (create path) history) : IsTable history.rows := by
  induction reached with
  | refl => exact isTable_nil
  | tail _ leads ih => exact ih.of_leads leads

end History

end LeaseRoster
