import LeaseRoster.Proofs.UpdateRuns

/-!
# Snapshots in two reads

A snapshot copies the published list first and reads the history afterwards, and a batch that
is being applied may go on in between.  Every client is published before it is written, so a
snapshot that nothing comes in between of never takes a new live client for a past one.  One
whose list was copied before a batch was published, and whose history is read after a new
client of the batch was written, does.
-/

namespace LeaseRoster

namespace Happening

/-- Whether a client was written and no purge has removed it since. -/
def isRecorded (mac : MacAddress) : List Happening → Bool
  | [] => false
  | .published _ :: earlier => isRecorded mac earlier
  | .written other :: earlier => other = mac || isRecorded mac earlier
  | .purged macs :: earlier => mac ∉ macs && isRecorded mac earlier

theorem isRecorded_written_iff (mac other : MacAddress) (earlier : List Happening) :
    isRecorded mac (.written other :: earlier) = true ↔
      other = mac ∨ isRecorded mac earlier = true := by
  rw [isRecorded, Bool.or_eq_true, decide_eq_true_eq]

theorem isRecorded_purged_iff (mac : MacAddress) (macs : List MacAddress)
    (earlier : List Happening) :
    isRecorded mac (.purged macs :: earlier) = true ↔
      mac ∉ macs ∧ isRecorded mac earlier = true := by
  rw [isRecorded, Bool.and_eq_true, decide_eq_true_eq]

/-- Whether no batch behind the first one with a client left the client out. -/
def neverOmitted (mac : MacAddress) : List Happening → Bool
  | [] => true
  | .published batch :: earlier =>
    (mac ∈ batch.map Lease.mac || !everPublished mac earlier) && neverOmitted mac earlier
  | .written _ :: earlier => neverOmitted mac earlier
  | .purged _ :: earlier => neverOmitted mac earlier

theorem mem_lastPublished_of_neverOmitted {mac : MacAddress} {happenings : List Happening}
    (kept : neverOmitted mac happenings = true) (ever : everPublished mac happenings = true) :
    mac ∈ (lastPublished happenings).map Lease.mac := by
  induction happenings with
  | nil => cases ever
  | cons latest earlier ih =>
    cases latest with
    | published batch =>
      simp only [neverOmitted, everPublished, Bool.and_eq_true, Bool.or_eq_true,
        decide_eq_true_eq] at kept ever
      rcases ever with inBatch | before
      · exact inBatch
      · rcases kept.1 with inBatch | never
        · exact inBatch
        · simp [before] at never
    | written other => exact ih kept ever
    | purged macs => exact ih kept ever

theorem neverOmitted_of_suffix {mac : MacAddress} {earlier happenings : List Happening}
    (suffix : earlier <:+ happenings) (kept : neverOmitted mac happenings = true) :
    neverOmitted mac earlier = true := by
  obtain ⟨later, rfl⟩ := suffix
  induction later with
  | nil => exact kept
  | cons latest rest ih =>
    cases latest with
    | published batch => exact ih (Bool.and_eq_true_iff.mp kept).2
    | written other => exact ih kept
    | purged macs => exact ih kept

end Happening

namespace UpdateRun

/-! ## What a run tells of a client -/

theorem happenings_advance (reconciler : Reconciler) (run : UpdateRun) (event : Event) :
    run.happenings <:+ (run.advance reconciler event).happenings := by
  cases event with
  | takeUp leases now =>
    cases planned : run.pending <;> simp [advance, planned]
  | proceed =>
    cases planned : run.pending with
    | nil => simp [advance, planned]
    | cons step rest =>
      simp only [advance, planned]
      exact List.suffix_append _ _
  | purge retention now =>
    cases purges : run.roster.history.purgeOlderThan retention now with
    | error fault => simp [advance, purges]
    | ok purged =>
      simp only [advance, purges]
      exact List.suffix_cons _ _

theorem happenings_runAll (reconciler : Reconciler) (run : UpdateRun) (events : List Event) :
    run.happenings <:+ (run.runAll reconciler events).happenings := by
  induction events generalizing run with
  | nil => exact List.suffix_refl _
  | cons event rest ih =>
    exact (happenings_advance reconciler run event).trans (ih (run.advance reconciler event))

/-- A client that a run tells to be recorded is in the ledger, and was published before. -/
structure Traced (mac : MacAddress) (run : UpdateRun) (ledger : Ledger) : Prop where
  present : Happening.isRecorded mac run.happenings = true → mac ∈ ledger.keys
  published : Happening.isRecorded mac run.happenings = true →
    Happening.everPublished mac run.happenings = true

section Change

variable {reconciler : Reconciler} {known : MacAddress → Prop} {run next : UpdateRun}
  {ledger left : Ledger} {awaiting waiting : List MacAddress} {mac : MacAddress}

theorem Traced.change (traced : Traced mac run ledger)
    (accounted : Accounted reconciler known run ledger awaiting)
    (change : Change reconciler run next ledger awaiting left waiting) :
    Traced mac next left := by
  constructor <;> intro recorded
  · -- What is recorded is written into the ledger, and what is purged is not recorded.
    cases change with
    | silent listed told =>
      rw [told] at recorded
      exact traced.present recorded
    | published listed told =>
      rw [told] at recorded
      exact traced.present recorded
    | written client now member listed told =>
      rw [told, Happening.isRecorded_written_iff] at recorded
      rw [Index.mem_keys_insert_iff]
      rcases recorded with own | before
      · exact Or.inr own.symm
      · exact Or.inl (traced.present before)
    | purged macs listed told kept same =>
      rw [told, Happening.isRecorded_purged_iff] at recorded
      exact (kept mac).mpr ⟨traced.present recorded.2, recorded.1⟩
  · cases change with
    | silent listed told =>
      rw [told] at recorded ⊢
      exact traced.published recorded
    | published listed told =>
      rw [told] at recorded ⊢
      have ever := traced.published recorded
      simp [Happening.everPublished, ever]
    | written client now member listed told =>
      rw [told] at recorded ⊢
      rcases (Happening.isRecorded_written_iff _ _ _).mp recorded with own | before
      · rw [← own]
        exact accounted.everPublished_of_mem member
      · exact traced.published before
    | purged macs listed told kept same =>
      rw [told] at recorded ⊢
      exact traced.published ((Happening.isRecorded_purged_iff _ _ _).mp recorded).2

theorem Change.isRecorded_of_mem_keys
    (change : Change reconciler run next ledger awaiting left waiting)
    (before : mac ∈ ledger.keys → Happening.isRecorded mac run.happenings = true)
    (present : mac ∈ left.keys) : Happening.isRecorded mac next.happenings = true := by
  cases change with
  | silent listed told =>
    rw [told]
    exact before present
  | published listed told =>
    rw [told]
    exact before present
  | written client now member listed told =>
    rw [told, Happening.isRecorded_written_iff]
    rcases (Index.mem_keys_insert_iff _ _ _ _).mp present with earlier | own
    · exact Or.inr (before earlier)
    · exact Or.inl own.symm
  | purged macs listed told kept same =>
    obtain ⟨earlier, spared⟩ := (kept mac).mp present
    rw [told, Happening.isRecorded_purged_iff]
    exact ⟨spared, before earlier⟩

end Change

section Runs

variable {reconciler : Reconciler} {known : MacAddress → Prop} {run : UpdateRun}
  {ledger : Ledger} {awaiting : List MacAddress} {mac : MacAddress}

theorem Traced.runAll (traced : Traced mac run ledger)
    (accounted : Accounted reconciler known run ledger awaiting)
    (fits : fitsWord reconciler.epoch = true) {events : List Event}
    (storable : ∀ event ∈ events, event.isStorable = true) :
    ∃ left waiting, Accounted reconciler known (run.runAll reconciler events) left waiting ∧
      Traced mac (run.runAll reconciler events) left :=
  accounted.runAll (motive := fun run ledger _ => Traced mac run ledger) fits
    (fun accounted change traced => traced.change accounted change) traced storable

/-- A client that the ledger does not have comes into it only by being recorded. -/
theorem Traced.runAll_of_absent (traced : Traced mac run ledger) (absent : mac ∉ ledger.keys)
    (accounted : Accounted reconciler known run ledger awaiting)
    (fits : fitsWord reconciler.epoch = true) {events : List Event}
    (storable : ∀ event ∈ events, event.isStorable = true) :
    ∃ left waiting, Accounted reconciler known (run.runAll reconciler events) left waiting ∧
      Traced mac (run.runAll reconciler events) left ∧
      (mac ∈ left.keys → Happening.isRecorded mac
        (run.runAll reconciler events).happenings = true) :=
  accounted.runAll
    (motive := fun run ledger _ => Traced mac run ledger ∧
      (mac ∈ ledger.keys → Happening.isRecorded mac run.happenings = true)) fits
    (fun accounted change holds => ⟨holds.1.change accounted change,
      change.isRecorded_of_mem_keys holds.2⟩)
    ⟨traced, fun present => (absent present).elim⟩ storable

theorem Accounted.mem_published_iff
    (accounted : Accounted reconciler known run ledger awaiting)
    (kept : Happening.neverOmitted mac run.happenings = true) :
    mac ∈ (run.roster.published.map fun client => client.lease.mac) ↔
      Happening.everPublished mac run.happenings = true := by
  rw [accounted.current, reconciler.mem_macs_enrich_iff]
  constructor
  · exact Happening.everPublished_of_lastPublished
  · exact Happening.mem_lastPublished_of_neverOmitted kept

end Runs

/-! ## The two reads -/

/-- The past clients of a snapshot whose list is copied in one state of a run and whose
history is read in another one. -/
def splitPast (reconciler : Reconciler) (copied read : UpdateRun) : List MacAddress :=
  reconciler.pastMacs read.roster.history
    (copied.roster.published.map fun client => client.lease.mac)

/-- A snapshot that nothing comes in between of is copied and read in the same state. -/
theorem splitPast_self (reconciler : Reconciler) (run : UpdateRun) (now : Moment) :
    splitPast reconciler run run =
      (run.roster.snapshot reconciler now).value.past.map fun client => client.sighting.mac :=
  rfl

/-- A client that the history does not know, and that no batch leaves out once it has come, is
among the past clients of a snapshot exactly if the list was copied before it was published
and the history is read while it is recorded.  So it never is if nothing comes in between of
the two reads. -/
theorem new_client_past_iff (path : String) (calls : List History.Call)
    (reconciler : Reconciler) (fits : fitsWord reconciler.epoch = true)
    (before first second : List Event)
    (storable : ∀ event ∈ before ++ first ++ second, event.isStorable = true)
    (mac : MacAddress) (now : Moment) :
    let start := initial (History.Call.runAll (History.create path) calls)
    let reached := start.runAll reconciler before
    let copied := reached.runAll reconciler first
    let read := copied.runAll reconciler second
    ¬ reached.roster.history.Knows mac →
    Happening.neverOmitted mac read.happenings = true →
      (mac ∈ splitPast reconciler copied read ↔
        Happening.everPublished mac copied.happenings = false ∧
          Happening.isRecorded mac read.happenings = true) ∧
      mac ∉ (read.roster.snapshot reconciler now).value.past.map
        fun client => client.sighting.mac := by
  intro start reached copied read unknown kept
  have mirrors := History.mirrors_runAll path calls
  have nothing : Traced mac start (History.Call.ledgerOf calls) := by
    constructor <;> (intro recorded; cases recorded)
  obtain ⟨ledger, awaiting, accounted, traced⟩ :=
    nothing.runAll (accounted_initial reconciler mirrors) fits
      (fun event member => storable event (by simp [member]) : ∀ event ∈ before, _)
  have absent : mac ∉ ledger.keys := fun present =>
    unknown ((accounted.mirrors.knows_iff mac).mpr present)
  obtain ⟨_, _, copiedAccounted, -⟩ := traced.runAll accounted fits
    (fun event member => storable event (by simp [member]) : ∀ event ∈ first, _)
  obtain ⟨left, waiting, readAccounted, readTraced, recorded⟩ :=
    traced.runAll_of_absent absent accounted fits
      (fun event member => storable event (by simpa [or_assoc] using Or.inr member) :
        ∀ event ∈ first ++ second, _)
  have joined : reached.runAll reconciler (first ++ second) = read := List.foldl_append
  rw [joined] at readAccounted readTraced recorded
  have copiedKept : Happening.neverOmitted mac copied.happenings = true :=
    Happening.neverOmitted_of_suffix (happenings_runAll reconciler copied second) kept
  have stored : mac ∈ left.keys ↔ Happening.isRecorded mac read.happenings = true :=
    ⟨recorded, readTraced.present⟩
  have past := fun alive => (reconciler.pastMacs_of_mirrors readAccounted.mirrors alive).2 mac
  constructor
  · rw [splitPast, past, stored, copiedAccounted.mem_published_iff copiedKept,
      Bool.not_eq_true, and_comm]
  · rw [← splitPast_self, splitPast, past, stored, readAccounted.mem_published_iff kept]
    rintro ⟨isRecorded, unpublished⟩
    exact unpublished (readTraced.published isRecorded)

/-- A client that is written between the two reads is not taken for a past one if its batch was
published before the list was copied. -/
theorem new_client_live_in_late_copy :
    let lease : Lease := ⟨⟨List.replicate 12 7, rfl⟩, .v4 1, "printer", none, none⟩
    let reconciler : Reconciler := ⟨⟨[]⟩, Registry.empty, 5, "lan", 1⟩
    let clock : Moment := ⟨0, some 0, by decide⟩
    let start := initial (History.create "clients.db")
    let first : List Event := [.takeUp [lease] clock, .proceed]
    let second : List Event := [.proceed, .proceed]
    let copied := start.runAll reconciler first
    let read := copied.runAll reconciler second
    fitsWord reconciler.epoch = true ∧
      (∀ event ∈ [] ++ first ++ second, event.isStorable = true) ∧
      ¬ start.roster.history.Knows lease.mac ∧
      Happening.neverOmitted lease.mac read.happenings = true ∧
      Happening.isRecorded lease.mac read.happenings = true ∧
      lease.mac ∉ splitPast reconciler copied read := by
  intro lease reconciler clock start first second copied read
  have fits : fitsWord reconciler.epoch = true := rfl
  have storable : ∀ event ∈ [] ++ first ++ second, event.isStorable = true := by decide
  have unknown : ¬ start.roster.history.Knows lease.mac := List.not_mem_nil
  have kept : Happening.neverOmitted lease.mac read.happenings = true := by decide +kernel
  have recorded : Happening.isRecorded lease.mac read.happenings = true := by decide +kernel
  have published : Happening.everPublished lease.mac copied.happenings = true := by
    decide +kernel
  have reported : lease.mac ∈ splitPast reconciler copied read ↔
      Happening.everPublished lease.mac copied.happenings = false ∧
        Happening.isRecorded lease.mac read.happenings = true :=
    (new_client_past_iff "clients.db" [] reconciler fits [] first second storable lease.mac
      clock unknown kept).1
  refine ⟨fits, storable, unknown, kept, recorded, fun member => ?_⟩
  have unpublished := (reported.mp member).1
  rw [published] at unpublished
  cases unpublished

/-- A client of the first batch ever is among the past clients of a snapshot whose list was
copied before the batch was published, although the list has it when the history is read. -/
theorem new_client_past_in_early_copy :
    let lease : Lease := ⟨⟨List.replicate 12 7, rfl⟩, .v4 1, "printer", none, none⟩
    let reconciler : Reconciler := ⟨⟨[]⟩, Registry.empty, 5, "lan", 1⟩
    let clock : Moment := ⟨0, some 0, by decide⟩
    let copied := initial (History.create "clients.db")
    let read := copied.runAll reconciler [.takeUp [lease] clock, .proceed, .proceed]
    ¬ copied.roster.history.Knows lease.mac ∧
      Happening.everPublished lease.mac copied.happenings = false ∧
      Happening.neverOmitted lease.mac read.happenings = true ∧
      (read.roster.published.map fun client => client.lease.mac) = [lease.mac] ∧
      splitPast reconciler copied read = [lease.mac] := by
  intro lease reconciler clock copied read
  have unknown : ¬ copied.roster.history.Knows lease.mac := List.not_mem_nil
  have kept : Happening.neverOmitted lease.mac read.happenings = true := by decide +kernel
  have live : (read.roster.published.map fun client => client.lease.mac) = [lease.mac] := by
    decide +kernel
  have past : splitPast reconciler copied read = [lease.mac] := by decide +kernel
  exact ⟨unknown, rfl, kept, live, past⟩

end UpdateRun

end LeaseRoster
