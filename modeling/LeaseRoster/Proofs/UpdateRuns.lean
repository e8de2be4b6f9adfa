import LeaseRoster.Proofs.HistoryRuns
import LeaseRoster.Proofs.PastClients
import LeaseRoster.Proofs.SightingWrites

/-!
# Runs of updates and purges

A batch of leases is applied step by step, and a purge of the history may come in between
any two of its steps.  A run keeps the steps that are still to be done and notes what
happens to clients.  What an event can change for them is said once, and whatever holds
throughout runs is read off these changes.  The invariant of runs accounts for every client
that was ever known: the history has a row for it, or a purge took its row since it was last
written, or it is in the published list and still waits to be written.

`UpdateRun.roster_runAll_takeUp` is not needed for any of this.  It ties runs to the service, which
applies a batch at once: that is the run in which no purge comes in between.
-/

namespace LeaseRoster

/-- What happens to clients: a batch is published in place of the one before, a client is
written to the history, a purge removes some. -/
inductive Happening
  | published (batch : List Lease)
  | written (mac : MacAddress)
  | purged (macs : List MacAddress)

namespace Happening

/-- The batch that was published last, of what happened, the latest first. -/
def lastPublished : List Happening → List Lease
  | [] => []
  | .published batch :: _ => batch
  | .written _ :: earlier => lastPublished earlier
  | .purged _ :: earlier => lastPublished earlier

/-- Whether a client was in any batch that was published. -/
def everPublished (mac : MacAddress) : List Happening → Bool
  | [] => false
  | .published batch :: earlier => mac ∈ batch.map Lease.mac || everPublished mac earlier
  | .written _ :: earlier => everPublished mac earlier
  | .purged _ :: earlier => everPublished mac earlier

/-- Whether a purge removed a client after it was last written. -/
def purgedSince (mac : MacAddress) : List Happening → Bool
  | [] => false
  | .published _ :: earlier => purgedSince mac earlier
  | .written other :: earlier => other ≠ mac && purgedSince mac earlier
  | .purged macs :: earlier => mac ∈ macs || purgedSince mac earlier

theorem everPublished_of_lastPublished {mac : MacAddress} {happenings : List Happening}
    (current : mac ∈ (lastPublished happenings).map Lease.mac) :
    everPublished mac happenings = true := by
  induction happenings with
  | nil => cases current
  | cons latest earlier ih =>
    cases latest with
    | published batch => simp only [everPublished, lastPublished] at current ⊢; simp [current]
    | written other => exact ih current
    | purged macs => exact ih current

end Happening

/-- A roster in the middle of a run: the batch that is being applied, the steps of it that
are still to be done, and what has happened so far, the latest first. -/
structure UpdateRun where
  roster : Roster
  batch : List Lease
  pending : List Roster.Step
  happenings : List Happening

namespace UpdateRun

/-- What moves a run on: a batch is taken up, the next step of it is done, or the history
is purged. -/
inductive Event
  | takeUp (leases : List Lease) (now : Moment)
  | proceed
  | purge (retention : Option Duration) (now : Moment)

/-- Whether the clock and the names that an event brings can be stored, within the limit of
`Lease.isStorable`. -/
def Event.isStorable : Event → Bool
  | .takeUp leases now => now.toUniversal?.isSome && leases.all Lease.isStorable
  | .proceed => true
  | .purge _ _ => true

/-- What a step tells about clients.  A step that leaves a notice or a fault did not write
its client. -/
def happeningOf (batch : List Lease) (done : Roster.Outcome) : Roster.Step → List Happening
  | .publish _ => [.published batch]
  | .sight lease _ =>
    if done.notices.isEmpty && done.fault.isNone then [.written lease.mac] else []
  | .announce _ _ => []

/-- The run behind an event.  A batch is only taken up when no other one is being applied,
and a step that is stopped by a fault ends its batch. -/
def advance (reconciler : Reconciler) (run : UpdateRun) : Event → UpdateRun
  | .takeUp leases now =>
    match run.pending with
    | [] =>
      { run with
        batch := leases
        pending := Roster.applySteps now run.roster.published.length (reconciler.enrich leases) }
    | _ :: _ => run
  | .proceed =>
    match run.pending with
    | [] => run
    | step :: rest =>
      let done := run.roster.perform (Roster.writeSighting reconciler.epoch) step
      { run with
        roster := done.roster
        pending := if done.fault.isSome then [] else rest
        happenings := happeningOf run.batch done step ++ run.happenings }
  | .purge retention now =>
    match run.roster.history.purgeOlderThan retention now with
    | .ok purged =>
      { run with
        roster := run.roster.withHistory purged.history
        happenings := .purged (purged.removed.map Sighting.mac) :: run.happenings }
    | .error _ => run

/-- The run over a history before anything happens: the published list is empty. -/
def initial (history : History) : UpdateRun := ⟨Roster.initial history, [], [], []⟩

/-- The run behind some events. -/
def runAll (reconciler : Reconciler) (run : UpdateRun) (events : List Event) : UpdateRun :=
  events.foldl (advance reconciler) run

theorem runAll_proceed_of_idle (reconciler : Reconciler) (run : UpdateRun)
    (rests : run.pending = []) (count : Nat) :
    run.runAll reconciler (List.replicate count .proceed) = run := by
  induction count with
  | zero => rfl
  | succ count ih =>
    have still : run.advance reconciler .proceed = run := by simp [advance, rests]
    rw [List.replicate_succ, runAll, List.foldl_cons, still]
    exact ih

/-- Going on until nothing is left to be done does all steps in a row. -/
theorem roster_runAll_proceed (reconciler : Reconciler) (run : UpdateRun) :
    (run.runAll reconciler (List.replicate run.pending.length .proceed)).roster =
      (run.roster.performAll (Roster.writeSighting reconciler.epoch) run.pending).roster := by
  obtain ⟨roster, batch, pending, happenings⟩ := run
  induction pending generalizing roster happenings with
  | nil => rfl
  | cons step rest ih =>
    rw [List.length_cons, List.replicate_succ, runAll, List.foldl_cons, Roster.performAll]
    generalize does : roster.perform (Roster.writeSighting reconciler.epoch) step = done
    have next : advance reconciler ⟨roster, batch, step :: rest, happenings⟩ .proceed =
        ⟨done.roster, batch, if done.fault.isSome then [] else rest,
          happeningOf batch done step ++ happenings⟩ := by
      simp [advance, does]
    rw [next]
    cases stopped : done.fault with
    | some fault =>
      have idle := runAll_proceed_of_idle reconciler
        ⟨done.roster, batch, [], happeningOf batch done step ++ happenings⟩ rfl rest.length
      exact congrArg UpdateRun.roster idle
    | none => exact ih done.roster (happeningOf batch done step ++ happenings)

/-- A batch that is taken up and gone on with until it ends is applied as a whole. -/
theorem roster_runAll_takeUp (reconciler : Reconciler) {run : UpdateRun}
    (rests : run.pending = []) (leases : List Lease) (now : Moment) :
    (run.runAll reconciler
      (.takeUp leases now :: List.replicate (leases.length + 2) .proceed)).roster =
        (run.roster.applyBatch reconciler now leases).roster := by
  have length : (Roster.applySteps now run.roster.published.length
      (reconciler.enrich leases)).length = leases.length + 2 := by
    simp [Roster.applySteps, Roster.trackSteps, Reconciler.enrich]
  have taken : run.advance reconciler (.takeUp leases now) =
      { run with
        batch := leases
        pending := Roster.applySteps now run.roster.published.length
          (reconciler.enrich leases) } := by
    simp [advance, rests]
  rw [runAll, List.foldl_cons, taken, ← length]
  exact roster_runAll_proceed reconciler _

/-! ## What an event changes -/

/-- How far the batch of a run has come, and the clients that are published and not yet
written. -/
inductive Stage (reconciler : Reconciler) (run : UpdateRun) : List MacAddress → Prop
  | idle (rests : run.pending = []) : Stage reconciler run []
  | fresh (now : Moment) (before : Nat) (convertible : now.toUniversal?.isSome = true)
      (storable : ∀ lease ∈ run.batch, lease.isStorable = true)
      (planned : run.pending = Roster.applySteps now before (reconciler.enrich run.batch)) :
      Stage reconciler run []
  | tracking (now : Moment) (before after : Nat) (rest : List LiveClient)
      (convertible : now.toUniversal?.isSome = true)
      (storable : ∀ client ∈ rest, client.lease.isStorable = true)
      (listed : ∀ client ∈ rest, client ∈ run.roster.published)
      (planned : run.pending = Roster.trackSteps now rest ++ [.announce before after]) :
      Stage reconciler run (rest.map fun client => client.lease.mac)

/-- What the way from one run to the next changes for clients: the ledger and those that wait
before it, and the ledger and those that wait behind it. -/
inductive Change (reconciler : Reconciler) (run next : UpdateRun) (ledger : Ledger) :
    List MacAddress → Ledger → List MacAddress → Prop
  | silent {awaiting : List MacAddress}
      (listed : next.roster.published = run.roster.published)
      (told : next.happenings = run.happenings) :
      Change reconciler run next ledger awaiting ledger awaiting
  | published
      (listed : next.roster.published = reconciler.enrich run.batch)
      (told : next.happenings = .published run.batch :: run.happenings) :
      Change reconciler run next ledger [] ledger
        ((reconciler.enrich run.batch).map fun client => client.lease.mac)
  | written {awaiting : List MacAddress} (client : LiveClient) (now : Moment)
      (member : client ∈ run.roster.published)
      (listed : next.roster.published = run.roster.published)
      (told : next.happenings = .written client.lease.mac :: run.happenings) :
      Change reconciler run next ledger (client.lease.mac :: awaiting)
        (ledger.insert client.lease.mac (client.lease.entryAt now reconciler.epoch)) awaiting
  | purged {awaiting : List MacAddress} {left : Ledger} (macs : List MacAddress)
      (listed : next.roster.published = run.roster.published)
      (told : next.happenings = .purged macs :: run.happenings)
      (kept : ∀ mac, mac ∈ left.keys ↔ mac ∈ ledger.keys ∧ mac ∉ macs)
      (same : ∀ mac entry, left.find? mac = some entry → ledger.find? mac = some entry) :
      Change reconciler run next ledger awaiting left awaiting

/-- The next run has a ledger and a stage, and one of the changes leads there. -/
def LeadsTo (reconciler : Reconciler) (run next : UpdateRun) (ledger : Ledger)
    (awaiting : List MacAddress) : Prop :=
  ∃ left waiting, next.roster.history.Mirrors left ∧ Stage reconciler next waiting ∧
    Change reconciler run next ledger awaiting left waiting

section Step

variable {reconciler : Reconciler} {run : UpdateRun} {ledger : Ledger}
  {awaiting : List MacAddress} (mirrors : run.roster.history.Mirrors ledger)

include mirrors

theorem leadsTo_takeUp (stage : Stage reconciler run awaiting) {leases : List Lease}
    {now : Moment} (storable : (Event.takeUp leases now).isStorable = true) :
    LeadsTo reconciler run (run.advance reconciler (.takeUp leases now)) ledger awaiting := by
  simp only [Event.isStorable, Bool.and_eq_true, List.all_eq_true] at storable
  unfold advance
  cases rests : run.pending with
  | cons step rest => exact ⟨ledger, awaiting, mirrors, stage, .silent rfl rfl⟩
  | nil =>
    have nobody : awaiting = [] := by
      cases stage with
      | idle => rfl
      | fresh => rfl
      | tracking _ _ _ rest _ _ _ planned => simp [rests] at planned
    subst nobody
    exact ⟨ledger, [], mirrors, .fresh now _ storable.1 storable.2 rfl, .silent rfl rfl⟩

/-- Publishing a batch makes all its clients wait to be written. -/
theorem leadsTo_publish {now : Moment} {before : Nat}
    (convertible : now.toUniversal?.isSome = true)
    (storable : ∀ lease ∈ run.batch, lease.isStorable = true)
    (planned : run.pending = Roster.applySteps now before (reconciler.enrich run.batch)) :
    LeadsTo reconciler run (run.advance reconciler .proceed) ledger [] := by
  have next : run.advance reconciler .proceed =
      { run with
        roster := { run.roster with published := reconciler.enrich run.batch }
        pending := Roster.trackSteps now (reconciler.enrich run.batch) ++
          [.announce before (reconciler.enrich run.batch).length]
        happenings := .published run.batch :: run.happenings } := by
    simp [advance, planned, Roster.applySteps, Roster.perform, happeningOf]
  rw [next]
  refine ⟨ledger, _, mirrors, .tracking now before _ (reconciler.enrich run.batch) convertible
    ?_ (fun _ => id) rfl, .published rfl rfl⟩
  intro client member
  exact reconciler.isStorable_of_mem_enrich storable member

/-- Writing a client takes it off those that wait. -/
theorem leadsTo_sight (fits : fitsWord reconciler.epoch = true) {now : Moment}
    {before after : Nat} {client : LiveClient} {rest : List LiveClient}
    (convertible : now.toUniversal?.isSome = true)
    (storable : ∀ other ∈ client :: rest, other.lease.isStorable = true)
    (listed : ∀ other ∈ client :: rest, other ∈ run.roster.published)
    (planned : run.pending =
      Roster.trackSteps now (client :: rest) ++ [.announce before after]) :
    LeadsTo reconciler run (run.advance reconciler .proceed) ledger
      ((client :: rest).map fun other => other.lease.mac) := by
  obtain ⟨history, written, entered⟩ := Roster.writeSighting_mirrors fits convertible
    (storable client (by simp)) mirrors
  have next : run.advance reconciler .proceed =
      { run with
        roster := { run.roster with history }
        pending := Roster.trackSteps now rest ++ [.announce before after]
        happenings := .written client.lease.mac :: run.happenings } := by
    simp [advance, planned, Roster.trackSteps, Roster.perform, Roster.sight, written,
      happeningOf]
  rw [next]
  exact ⟨_, _, entered,
    .tracking now before after rest convertible
      (fun other member => storable other (List.mem_cons_of_mem _ member))
      (fun other member => listed other (List.mem_cons_of_mem _ member)) rfl,
    .written client now (listed client (by simp)) rfl rfl⟩

/-- Announcing a batch concerns no client. -/
theorem leadsTo_announce {before after : Nat}
    (planned : run.pending = [.announce before after]) :
    LeadsTo reconciler run (run.advance reconciler .proceed) ledger [] := by
  have next : run.advance reconciler .proceed =
      { run with
        roster := { run.roster with
          applied := run.roster.applied + 1
          version := run.roster.version + 1 }
        pending := [] } := by
    simp [advance, planned, Roster.perform, happeningOf]
  rw [next]
  exact ⟨ledger, [], mirrors, .idle rfl, .silent rfl rfl⟩

theorem leadsTo_proceed (stage : Stage reconciler run awaiting)
    (fits : fitsWord reconciler.epoch = true) :
    LeadsTo reconciler run (run.advance reconciler .proceed) ledger awaiting := by
  cases stage with
  | idle rests =>
    have still : run.advance reconciler .proceed = run := by simp [advance, rests]
    rw [still]
    exact ⟨ledger, [], mirrors, .idle rests, .silent rfl rfl⟩
  | fresh now before convertible storable planned =>
    exact leadsTo_publish mirrors convertible storable planned
  | tracking now before after rest convertible storable listed planned =>
    cases rest with
    | nil => exact leadsTo_announce mirrors planned
    | cons client rest => exact leadsTo_sight mirrors fits convertible storable listed planned

/-- A purge leaves the batch alone that is being applied. -/
theorem leadsTo_purge (stage : Stage reconciler run awaiting) (retention : Option Duration)
    (now : Moment) :
    LeadsTo reconciler run (run.advance reconciler (.purge retention now)) ledger
      awaiting := by
  cases purges : run.roster.history.purgeOlderThan retention now with
  | error fault =>
    have still : run.advance reconciler (.purge retention now) = run := by
      simp [advance, purges]
    rw [still]
    exact ⟨ledger, awaiting, mirrors, stage, .silent rfl rfl⟩
  | ok purged =>
    obtain ⟨left, mirrored, split, same⟩ := mirrors.purged purges
    have next : run.advance reconciler (.purge retention now) =
        { run with
          roster := run.roster.withHistory purged.history
          happenings := .purged (purged.removed.map Sighting.mac) :: run.happenings } := by
      simp [advance, purges]
    rw [next]
    refine ⟨left, awaiting, mirrored, ?_, .purged _ rfl rfl split same⟩
    cases stage with
    | idle rests => exact .idle rests
    | fresh now before convertible storable planned =>
      exact .fresh now before convertible storable planned
    | tracking now before after rest convertible storable listed planned =>
      exact .tracking now before after rest convertible storable listed planned

theorem leadsTo_advance (stage : Stage reconciler run awaiting)
    (fits : fitsWord reconciler.epoch = true) {event : Event}
    (storable : event.isStorable = true) :
    LeadsTo reconciler run (run.advance reconciler event) ledger awaiting := by
  cases event with
  | takeUp leases now => exact leadsTo_takeUp mirrors stage storable
  | proceed => exact leadsTo_proceed mirrors stage fits
  | purge retention now => exact leadsTo_purge mirrors stage retention now

end Step

/-! ## The invariant -/

/-- Every client that was ever known is accounted for. -/
structure Accounted (reconciler : Reconciler) (known : MacAddress → Prop) (run : UpdateRun)
    (ledger : Ledger) (awaiting : List MacAddress) : Prop where
  mirrors : run.roster.history.Mirrors ledger
  current : run.roster.published =
    reconciler.enrich (Happening.lastPublished run.happenings)
  stage : Stage reconciler run awaiting
  covered : ∀ mac, known mac ∨ Happening.everPublished mac run.happenings = true →
    mac ∈ ledger.keys ∨ Happening.purgedSince mac run.happenings = true ∨ mac ∈ awaiting
  held : ∀ mac ∈ ledger.keys,
    (known mac ∨ Happening.everPublished mac run.happenings = true) ∧
      Happening.purgedSince mac run.happenings = false

/-- A run is accounted for with some ledger and some clients that wait. -/
def IsAccounted (reconciler : Reconciler) (known : MacAddress → Prop) (run : UpdateRun) :
    Prop :=
  ∃ ledger awaiting, Accounted reconciler known run ledger awaiting

theorem accounted_initial (reconciler : Reconciler) {history : History} {ledger : Ledger}
    (mirrors : history.Mirrors ledger) :
    Accounted reconciler (· ∈ ledger.keys) (initial history) ledger [] := by
  refine ⟨mirrors, ?_, .idle rfl, ?_, ?_⟩
  · simp [initial, Roster.initial, Happening.lastPublished, Reconciler.enrich]
  · rintro mac (present | published)
    · exact Or.inl present
    · cases published
  · intro mac present
    exact ⟨Or.inl present, rfl⟩

theorem isAccounted_initial (reconciler : Reconciler) {history : History} {ledger : Ledger}
    (mirrors : history.Mirrors ledger) :
    IsAccounted reconciler (· ∈ ledger.keys) (initial history) :=
  ⟨ledger, [], accounted_initial reconciler mirrors⟩

section Advance

variable {reconciler : Reconciler} {known : MacAddress → Prop} {run next : UpdateRun}
  {ledger left : Ledger} {awaiting waiting : List MacAddress}

/-- A client of the published list was published. -/
theorem Accounted.everPublished_of_mem
    (accounted : Accounted reconciler known run ledger awaiting) {client : LiveClient}
    (listed : client ∈ run.roster.published) :
    Happening.everPublished client.lease.mac run.happenings = true := by
  apply Happening.everPublished_of_lastPublished
  rw [← reconciler.mem_macs_enrich_iff, ← accounted.current]
  exact List.mem_map_of_mem listed

theorem Accounted.change (accounted : Accounted reconciler known run ledger awaiting)
    (mirrored : next.roster.history.Mirrors left) (staged : Stage reconciler next waiting)
    (change : Change reconciler run next ledger awaiting left waiting) :
    Accounted reconciler known next left waiting := by
  cases change with
  | silent listed told =>
    exact ⟨mirrored, by rw [listed, told, accounted.current], staged,
      by rw [told]; exact accounted.covered, by rw [told]; exact accounted.held⟩
  | published listed told =>
    refine ⟨mirrored, by rw [listed, told]; rfl, staged, ?_, ?_⟩
    · intro mac ever
      rw [reconciler.mem_macs_enrich_iff]
      by_cases inBatch : mac ∈ run.batch.map Lease.mac
      · exact Or.inr (Or.inr inBatch)
      · -- Nobody of the batch before still waits, so leaving the list loses no client.
        have before : known mac ∨ Happening.everPublished mac run.happenings = true := by
          simpa [told, Happening.everPublished, inBatch] using ever
        rw [told]
        rcases accounted.covered mac before with present | purged | waits
        · exact Or.inl present
        · exact Or.inr (Or.inl purged)
        · cases waits
    · intro mac present
      rw [told]
      refine ⟨(accounted.held mac present).1.imp_right ?_, (accounted.held mac present).2⟩
      intro ever
      simp [Happening.everPublished, ever]
  | written client now member listed told =>
    refine ⟨mirrored, by rw [listed, told]; exact accounted.current, staged, ?_, ?_⟩
    · intro mac ever
      rw [told] at ever ⊢
      rw [Index.mem_keys_insert_iff]
      by_cases own : mac = client.lease.mac
      · exact Or.inl (Or.inr own)
      · rcases accounted.covered mac ever with present | purged | waits
        · exact Or.inl (Or.inl present)
        · exact Or.inr (Or.inl (by simp [Happening.purgedSince, purged, Ne.symm own]))
        · exact Or.inr (Or.inr ((List.mem_cons.mp waits).resolve_left own))
    · intro mac present
      rw [told]
      by_cases own : mac = client.lease.mac
      · subst own
        exact ⟨Or.inr (accounted.everPublished_of_mem member),
          by simp [Happening.purgedSince]⟩
      · have earlier := ((Index.mem_keys_insert_iff _ _ _ _).mp present).resolve_right own
        exact ⟨(accounted.held mac earlier).1,
          by simp [Happening.purgedSince, (accounted.held mac earlier).2]⟩
  | purged macs listed told kept same =>
    refine ⟨mirrored, by rw [listed, told]; exact accounted.current, staged, ?_, ?_⟩
    · intro mac ever
      rw [told] at ever ⊢
      by_cases removed : mac ∈ macs
      · exact Or.inr (Or.inl (by rw [Happening.purgedSince, decide_eq_true removed]; rfl))
      · rcases accounted.covered mac ever with present | earlier | waits
        · exact Or.inl ((kept mac).mpr ⟨present, removed⟩)
        · exact Or.inr (Or.inl (by rw [Happening.purgedSince, earlier, Bool.or_true]))
        · exact Or.inr (Or.inr waits)
    · intro mac stays
      obtain ⟨present, spared⟩ := (kept mac).mp stays
      rw [told]
      refine ⟨(accounted.held mac present).1, ?_⟩
      rw [Happening.purgedSince, (accounted.held mac present).2, decide_eq_false spared]
      rfl

/-- What holds of a run that is accounted for and is kept by every change holds behind all
further events. -/
theorem Accounted.runAll {motive : UpdateRun → Ledger → List MacAddress → Prop}
    (accounted : Accounted reconciler known run ledger awaiting)
    (fits : fitsWord reconciler.epoch = true)
    (keeps : ∀ {run next ledger left awaiting waiting},
      Accounted reconciler known run ledger awaiting →
        Change reconciler run next ledger awaiting left waiting →
          motive run ledger awaiting → motive next left waiting)
    (holds : motive run ledger awaiting) {events : List Event}
    (storable : ∀ event ∈ events, event.isStorable = true) :
    ∃ left waiting, Accounted reconciler known (run.runAll reconciler events) left waiting ∧
      motive (run.runAll reconciler events) left waiting := by
  induction events generalizing run ledger awaiting with
  | nil => exact ⟨ledger, awaiting, accounted, holds⟩
  | cons event rest ih =>
    obtain ⟨left, waiting, mirrored, staged, change⟩ := leadsTo_advance accounted.mirrors
      accounted.stage fits (storable event (by simp))
    exact ih (accounted.change mirrored staged change) (keeps accounted change holds)
      fun other member => storable other (List.mem_cons_of_mem _ member)

theorem IsAccounted.runAll (accounted : IsAccounted reconciler known run)
    (fits : fitsWord reconciler.epoch = true) {events : List Event}
    (storable : ∀ event ∈ events, event.isStorable = true) :
    IsAccounted reconciler known (run.runAll reconciler events) := by
  obtain ⟨ledger, awaiting, accounted⟩ := accounted
  obtain ⟨left, waiting, accountedThen, -⟩ := accounted.runAll (motive := fun _ _ _ => True)
    fits (fun _ _ holds => holds) trivial storable
  exact ⟨left, waiting, accountedThen⟩

/-! ## Snapshots of a run -/

/-- Only clients of the published list wait to be written. -/
theorem Stage.mem_published (stage : Stage reconciler run awaiting) {mac : MacAddress}
    (waits : mac ∈ awaiting) :
    mac ∈ run.roster.published.map fun client => client.lease.mac := by
  cases stage with
  | idle => cases waits
  | fresh => cases waits
  | tracking now before after rest convertible storable listed planned =>
    obtain ⟨client, member, rfl⟩ := List.mem_map.mp waits
    exact List.mem_map_of_mem (listed client member)

/-- A known client that is not published has a row exactly if no purge took it. -/
theorem Accounted.mem_keys_iff (accounted : Accounted reconciler known run ledger awaiting)
    {mac : MacAddress}
    (ever : known mac ∨ Happening.everPublished mac run.happenings = true)
    (gone : mac ∉ run.roster.published.map fun client => client.lease.mac) :
    mac ∈ ledger.keys ↔ Happening.purgedSince mac run.happenings = false := by
  constructor
  · intro present
    exact (accounted.held mac present).2
  · intro spared
    rcases accounted.covered mac ever with present | purged | waits
    · exact present
    · rw [spared] at purged
      cases purged
    · exact (gone (accounted.stage.mem_published waits)).elim

end Advance

/-- Whenever a snapshot is taken, a client of the published batch is among the current
clients only, and any other client that was ever known is among the past clients once,
unless a purge removed it after it was last written. -/
theorem snapshot_conserves_clients (path : String) (calls : List History.Call)
    (reconciler : Reconciler) (fits : fitsWord reconciler.epoch = true) (events : List Event)
    (storable : ∀ event ∈ events, event.isStorable = true) (now : Moment) :
    let start := History.Call.runAll (History.create path) calls
    let run := runAll reconciler (initial start) events
    let shown := (run.roster.snapshot reconciler now).value
    let current := shown.current.map fun client => client.lease.mac
    let past := shown.past.map fun client => client.sighting.mac
    run.roster.published = reconciler.enrich (Happening.lastPublished run.happenings) ∧
    (∀ mac, start.Knows mac ∨ Happening.everPublished mac run.happenings = true →
      if mac ∈ (Happening.lastPublished run.happenings).map Lease.mac then
        mac ∈ current ∧ mac ∉ past
      else
        mac ∉ current ∧
          past.count mac = if Happening.purgedSince mac run.happenings then 0 else 1) ∧
    (∀ mac ∈ past, start.Knows mac ∨ Happening.everPublished mac run.happenings = true) := by
  intro start run shown current past
  have mirrors : start.Mirrors (History.Call.ledgerOf calls) :=
    History.mirrors_runAll path calls
  obtain ⟨ledger, awaiting, accounted⟩ : IsAccounted reconciler _ run :=
    (isAccounted_initial reconciler mirrors).runAll fits storable
  obtain ⟨distinct, members⟩ : past.Nodup ∧
      ∀ mac, mac ∈ past ↔ mac ∈ ledger.keys ∧ mac ∉ current :=
    reconciler.pastMacs_of_mirrors accounted.mirrors current
  have live (mac : MacAddress) :
      mac ∈ (Happening.lastPublished run.happenings).map Lease.mac ↔ mac ∈ current := by
    rw [← reconciler.mem_macs_enrich_iff, ← accounted.current]
    rfl
  simp only [mirrors.knows_iff, live]
  refine ⟨accounted.current, fun mac ever => ?_, fun mac member => ?_⟩
  · split
    · rename_i published
      exact ⟨published, fun member => ((members mac).mp member).2 published⟩
    · rename_i gone
      have listed : mac ∈ past ↔ Happening.purgedSince mac run.happenings = false := by
        rw [members, accounted.mem_keys_iff ever gone, and_iff_left gone]
      refine ⟨gone, ?_⟩
      rw [distinct.count]
      cases purged : Happening.purgedSince mac run.happenings <;> simp [listed, purged]
  · exact (accounted.held mac ((members mac).mp member).1).1

/-- A client is not among the past clients although the history does not know it yet. -/
theorem client_current_before_sight :
    let lease : Lease := ⟨⟨List.replicate 12 7, rfl⟩, .v4 1, "printer", none, none⟩
    let reconciler : Reconciler := ⟨⟨[]⟩, Registry.empty, 5, "lan", 1⟩
    let clock : Moment := ⟨0, some 0, by decide⟩
    let events : List Event := [.takeUp [lease] clock, .proceed]
    let run := runAll reconciler (initial (History.create "clients.db")) events
    let shown := (run.roster.snapshot reconciler clock).value
    fitsWord reconciler.epoch = true ∧ (∀ event ∈ events, event.isStorable = true) ∧
      lease.mac ∈ (shown.current.map fun client => client.lease.mac) ∧
      lease.mac ∉ shown.past.map fun client => client.sighting.mac := by
  intro lease reconciler clock events run shown
  have fits : fitsWord reconciler.epoch = true := rfl
  have storable : ∀ event ∈ events, event.isStorable = true := by decide
  have conserved := (snapshot_conserves_clients "clients.db" [] reconciler fits events storable
    clock).2.1 lease.mac (Or.inr (by rfl))
  have live : lease.mac ∈
      (Happening.lastPublished run.happenings).map Lease.mac :=
    List.mem_singleton_self lease.mac
  exact ⟨fits, storable, (if_pos live).mp conserved⟩

end UpdateRun

end LeaseRoster
