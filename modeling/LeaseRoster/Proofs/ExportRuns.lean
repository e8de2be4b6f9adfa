import LeaseRoster.Proofs.SavedSnapshots
import LeaseRoster.Proofs.UpdateRuns

/-!
# Runs of the exporter

The exporter waits for a version of the list, takes a snapshot and saves it, while batches are
applied step by step in between.  It remembers a version before it saves a snapshot of it, and
it goes on when the operating system refuses to write one.  So at regular intervals everything
is written in the end, but without them a version whose writing failed is taken for written
until a further batch comes.

`ExportRun.runAll_turn` is not needed for that.  It ties these runs to the turn that the exporter
performs in one: that is the run in which nothing comes in between.
-/

namespace LeaseRoster

/-- What an exporter is started with. -/
structure Exporter where
  reconciler : Reconciler
  path : String
  refresh : Int

/-- An attempt to write a snapshot: the version that was remembered by then, the version of the
list that the snapshot was taken of, the snapshot, and the fault that stopped the writing. -/
structure Attempt where
  remembered : Nat
  taken : Nat
  snapshot : Snapshot
  fault : Option Fault

/-- Where the exporter is: it waits for a version, is about to take a snapshot, has one to be
saved, or was stopped by a fault that is not one of the operating system. -/
inductive ExportStage
  | waiting
  | due
  | holding (taken : Nat) (snapshot : Snapshot)
  | ended

/-- Whether the exporter waits for a version. -/
def ExportStage.isWaiting : ExportStage → Bool
  | .waiting => true
  | _ => false

theorem ExportStage.isWaiting_iff (stage : ExportStage) :
    stage.isWaiting = true ↔ stage = .waiting := by
  cases stage <;> simp [isWaiting]

/-- The service with its exporter: the run of updates, the files, the version that the exporter
remembers, where it is, and its attempts so far, the latest first. -/
structure ExportRun where
  updates : UpdateRun
  tree : FileTree
  remembered : Nat
  stage : ExportStage
  attempts : List Attempt

namespace ExportRun

/-- What moves a run on: an event of the updates, or a step of the exporter.  The operating
system may refuse to save. -/
inductive Event
  | update (event : UpdateRun.Event)
  | await
  | take (now : Moment)
  | save (breakdown : Option Export.Breakdown)

/-- The version of the list. -/
def version (run : ExportRun) : Nat := run.updates.roster.version

/-- Where the exporter goes from a saving. -/
def stageBehind : Option Fault → ExportStage
  | none => .waiting
  | some fault => if fault.isSystem then .waiting else .ended

/-- The run behind an event; a step of the exporter that is not its turn changes nothing. -/
def advance (exporter : Exporter) (run : ExportRun) : Event → ExportRun
  | .update event => { run with updates := run.updates.advance exporter.reconciler event }
  | .await =>
    match run.stage with
    | .waiting =>
      if Export.isDue exporter.refresh run.remembered run.version then
        { run with remembered := run.version, stage := .due }
      else run
    | _ => run
  | .take now =>
    match run.stage with
    | .due =>
      let found := run.updates.roster.snapshot exporter.reconciler now
      { run with stage := .holding run.version found.value }
    | _ => run
  | .save breakdown =>
    match run.stage with
    | .holding taken snapshot =>
      let text := Export.snapshotText snapshot exporter.reconciler.pool.size?
      let saved := Export.saveText exporter.path text run.tree breakdown
      { run with
        tree := saved.tree
        stage := stageBehind saved.fault
        attempts := ⟨run.remembered, taken, snapshot, saved.fault⟩ :: run.attempts }
    | _ => run

/-- The run behind some events. -/
def runAll (exporter : Exporter) (run : ExportRun) (events : List Event) : ExportRun :=
  events.foldl (advance exporter) run

/-- The run over a history and some files before anything happens. -/
def initial (history : History) (tree : FileTree) : ExportRun :=
  ⟨UpdateRun.initial history, tree, 0, .waiting, []⟩

/-- The exporter is where it looks for a version and finds none to be written. -/
structure Skips (exporter : Exporter) (run : ExportRun) : Prop where
  waits : run.stage.isWaiting = true
  nothing : Export.isDue exporter.refresh run.remembered run.version = false

/-- The last attempt that went through. -/
def lastWritten? (run : ExportRun) : Option Attempt :=
  run.attempts.find? fun attempt => attempt.fault.isNone

theorem Skips.iff (exporter : Exporter) (run : ExportRun) :
    run.Skips exporter ↔
      run.stage = .waiting ∧ exporter.refresh ≤ 0 ∧ run.version = run.remembered := by
  constructor
  · rintro ⟨waits, nothing⟩
    exact ⟨(run.stage.isWaiting_iff).mp waits, by simpa [Export.isDue] using nothing⟩
  · rintro ⟨waits, still, same⟩
    exact ⟨(run.stage.isWaiting_iff).mpr waits, by simp [Export.isDue, still, same]⟩

/-! ## Versions -/

theorem version_le_perform (write : Roster.Write) (roster : Roster) (step : Roster.Step) :
    roster.version ≤ (roster.perform write step).roster.version := by
  cases step with
  | publish clients => exact Nat.le_refl _
  | announce before after => exact Nat.le_succ _
  | sight lease now =>
    rw [Roster.perform, Roster.sight]
    split <;> exact Nat.le_refl _

/-- Nothing lowers the version of the list. -/
theorem version_le_update (reconciler : Reconciler) (run : UpdateRun) (event : UpdateRun.Event) :
    run.roster.version ≤ (run.advance reconciler event).roster.version := by
  cases event with
  | takeUp leases now =>
    rw [UpdateRun.advance]
    split <;> exact Nat.le_refl _
  | proceed =>
    rw [UpdateRun.advance]
    split
    · exact Nat.le_refl _
    · exact version_le_perform _ _ _
  | purge retention now =>
    rw [UpdateRun.advance]
    split <;> exact Nat.le_refl _

theorem version_le_advance (exporter : Exporter) (run : ExportRun) (event : Event) :
    run.version ≤ (run.advance exporter event).version := by
  cases event with
  | update event => exact version_le_update exporter.reconciler run.updates event
  | await =>
    rw [advance]
    split
    · split <;> exact Nat.le_refl _
    · exact Nat.le_refl _
  | take now =>
    rw [advance]
    split <;> exact Nat.le_refl _
  | save breakdown =>
    rw [advance]
    split <;> exact Nat.le_refl _

theorem version_le_runAll (exporter : Exporter) (run : ExportRun) (events : List Event) :
    run.version ≤ (run.runAll exporter events).version := by
  induction events generalizing run with
  | nil => exact Nat.le_refl _
  | cons event rest ih => exact (version_le_advance exporter run event).trans (ih _)

/-! ## What the exporter has written -/

/-- Where the exporter is, and what its attempts have to do with what it remembers. -/
inductive Staged (run : ExportRun) : Prop
  | fresh (waits : run.stage = .waiting) (first : run.remembered = 0) (nothing : run.attempts = [])
  | waiting (last : Attempt) (earlier : List Attempt) (waits : run.stage = .waiting)
      (split : run.attempts = last :: earlier) (own : last.remembered = run.remembered)
      (late : run.remembered ≤ last.taken)
      (mild : ∀ fault, last.fault = some fault → fault.isSystem = true)
  | due (begins : run.stage = .due)
  | holding (taken : Nat) (snapshot : Snapshot) (holds : run.stage = .holding taken snapshot)
      (late : run.remembered ≤ taken) (reached : taken ≤ run.version)
      (latest : ∀ attempt ∈ run.attempts, attempt.taken ≤ taken)
  | ended (stops : run.stage = .ended)

/-- The target has the snapshot that was written last, or what it had at the start. -/
def TargetHas (exporter : Exporter) (start : Option (List Char)) (run : ExportRun) : Prop :=
  match run.lastWritten? with
  | none => run.tree.read? exporter.path = start
  | some attempt =>
    ∃ text, Export.snapshotText attempt.snapshot exporter.reconciler.pool.size? = .ok text ∧
      run.tree.read? exporter.path = some text

/-- What holds of every run: no version is remembered or taken that the list has not come to,
snapshots were taken in the order of versions, and the target has the last one written. -/
structure Keeps (exporter : Exporter) (start : Option (List Char)) (run : ExportRun) : Prop where
  remembered : run.remembered ≤ run.version
  taken : ∀ attempt ∈ run.attempts, attempt.taken ≤ run.version
  ordered : run.attempts.Pairwise fun later earlier => earlier.taken ≤ later.taken
  staged : Staged run
  target : TargetHas exporter start run

section Step

variable {exporter : Exporter} {start : Option (List Char)} {run : ExportRun}

theorem keeps_initial (exporter : Exporter) (history : History) (tree : FileTree) :
    Keeps exporter (tree.read? exporter.path) (initial history tree) :=
  ⟨Nat.le_refl _, by simp [initial], .nil, .fresh rfl rfl rfl, rfl⟩

theorem Staged.update (staged : Staged run) {updates : UpdateRun}
    (grows : run.version ≤ updates.roster.version) : Staged { run with updates } := by
  cases staged with
  | fresh waits first nothing => exact .fresh waits first nothing
  | waiting last earlier waits split own late mild =>
    exact .waiting last earlier waits split own late mild
  | due begins => exact .due begins
  | holding taken snapshot holds late reached latest =>
    exact .holding taken snapshot holds late (reached.trans grows) latest
  | ended stops => exact .ended stops

theorem Keeps.update (keeps : Keeps exporter start run) (event : UpdateRun.Event) :
    Keeps exporter start (run.advance exporter (.update event)) := by
  have grows := version_le_update exporter.reconciler run.updates event
  refine ⟨keeps.remembered.trans grows, fun attempt member => ?_, keeps.ordered,
    keeps.staged.update grows, keeps.target⟩
  exact (keeps.taken attempt member).trans grows

theorem Keeps.await (keeps : Keeps exporter start run) :
    Keeps exporter start (run.advance exporter .await) := by
  rw [advance]
  split
  · split
    · exact ⟨Nat.le_refl _, keeps.taken, keeps.ordered, .due rfl, keeps.target⟩
    · exact keeps
  · exact keeps

theorem Keeps.take (keeps : Keeps exporter start run) (now : Moment) :
    Keeps exporter start (run.advance exporter (.take now)) := by
  rw [advance]
  split
  · exact ⟨keeps.remembered, keeps.taken, keeps.ordered,
      .holding _ _ rfl keeps.remembered (Nat.le_refl _) keeps.taken, keeps.target⟩
  · exact keeps

/-- What was written stays in the target until a further snapshot is written as a whole. -/
theorem TargetHas.save (target : TargetHas exporter start run) {next : ExportRun}
    {attempt : Attempt} (attempts : next.attempts = attempt :: run.attempts)
    (settles : Export.Settles exporter.path
      (Export.snapshotText attempt.snapshot exporter.reconciler.pool.size?) run.tree
      ⟨next.tree, attempt.fault⟩) : TargetHas exporter start next := by
  unfold TargetHas lastWritten? at target ⊢
  rw [attempts, List.find?_cons]
  generalize attempt.fault = fault at settles ⊢
  cases settles with
  | written characters made present => exact ⟨characters, made, present⟩
  | failed stop kept =>
    dsimp only [Option.isNone_some]
    rw [kept]
    exact target

theorem Staged.save {taken : Nat} {snapshot : Snapshot} (late : run.remembered ≤ taken)
    {fault : Option Fault} {next : ExportRun}
    (attempts : next.attempts = ⟨run.remembered, taken, snapshot, fault⟩ :: run.attempts)
    (remembered : next.remembered = run.remembered) (stage : next.stage = stageBehind fault) :
    Staged next := by
  cases fault with
  | none =>
    exact .waiting _ _ stage attempts remembered.symm (remembered.trans_le late) nofun
  | some fault =>
    cases kind : fault.isSystem with
    | false => exact .ended (by rw [stage, stageBehind, kind]; rfl)
    | true =>
      refine .waiting _ _ (by rw [stage, stageBehind, kind]; rfl) attempts remembered.symm
        (remembered.trans_le late) ?_
      rintro other ⟨⟩
      exact kind

theorem Keeps.save (keeps : Keeps exporter start run) (breakdown : Option Export.Breakdown) :
    Keeps exporter start (run.advance exporter (.save breakdown)) := by
  rw [advance]
  split
  · rename_i taken snapshot holds
    -- The snapshot in hand may be newer than what is remembered, as updates come in between.
    obtain ⟨late, reached, latest⟩ : run.remembered ≤ taken ∧ taken ≤ run.version ∧
        ∀ attempt ∈ run.attempts, attempt.taken ≤ taken := by
      cases keeps.staged with
      | holding other found held late reached latest =>
        obtain ⟨rfl, -⟩ := ExportStage.holding.inj (holds.symm.trans held)
        exact ⟨late, reached, latest⟩
      | fresh waits _ _ => cases holds.symm.trans waits
      | waiting _ _ waits _ _ _ _ => cases holds.symm.trans waits
      | due begins => cases holds.symm.trans begins
      | ended stops => cases holds.symm.trans stops
    refine ⟨keeps.remembered, ?_, List.pairwise_cons.mpr ⟨latest, keeps.ordered⟩,
      .save late rfl rfl rfl, keeps.target.save rfl (Export.settles_saveText _ _ _ breakdown)⟩
    intro attempt member
    rcases List.mem_cons.mp member with rfl | earlier
    · exact reached
    · exact keeps.taken attempt earlier
  · exact keeps

theorem Keeps.advance (keeps : Keeps exporter start run) (event : Event) :
    Keeps exporter start (run.advance exporter event) := by
  cases event with
  | update event => exact keeps.update event
  | await => exact keeps.await
  | take now => exact keeps.take now
  | save breakdown => exact keeps.save breakdown

end Step

theorem Keeps.runAll {exporter : Exporter} {start : Option (List Char)} {run : ExportRun}
    (keeps : Keeps exporter start run) (events : List Event) :
    Keeps exporter start (run.runAll exporter events) := by
  induction events generalizing run with
  | nil => exact keeps
  | cons event rest ih => exact ih (keeps.advance event)

/-! ## Turns -/

/-- A turn that nothing comes in between of is one turn of the exporter over the roster. -/
theorem runAll_turn (exporter : Exporter) (run : ExportRun) (waits : run.stage = .waiting)
    (now : Moment) :
    let turn := Export.turn exporter.reconciler now exporter.path exporter.reconciler.pool.size?
      exporter.refresh run.remembered run.updates.roster run.tree
    let next := run.runAll exporter [.await, .take now, .save none]
    next.updates = run.updates ∧ next.remembered = turn.remembered ∧ next.tree = turn.tree ∧
      next.stage = if turn.fault.isSome then .ended else .waiting := by
  intro turn next
  obtain ⟨updates, tree, remembered, stage, attempts⟩ := run
  obtain rfl : stage = .waiting := waits
  cases due : Export.isDue exporter.refresh remembered updates.roster.version with
  | false =>
    simp [next, turn, runAll, advance, version, Export.turn, due]
  | true =>
    simp only [next, turn, runAll, List.foldl_cons, List.foldl_nil, advance, version, due, if_true,
      Export.turn, Export.saveTurn, Export.saveText_none]
    generalize (Export.save _ _ _ tree : Export.Saved FileTree) = saved
    obtain ⟨left, fault⟩ := saved
    cases fault with
    | none => simp [stageBehind]
    | some fault => cases kind : fault.isSystem <;> simp [stageBehind, kind]

/-! ## Versions that are passed over -/

/-- Where the exporter has nothing to write it stays so until the version changes. -/
theorem Skips.runAll {exporter : Exporter} {run : ExportRun} (skips : run.Skips exporter)
    {events : List Event} (same : (run.runAll exporter events).version = run.version) :
    (run.runAll exporter events).attempts = run.attempts ∧
      (run.runAll exporter events).tree = run.tree := by
  induction events generalizing run with
  | nil => exact ⟨rfl, rfl⟩
  | cons event rest ih =>
    have waits := (run.stage.isWaiting_iff).mp skips.waits
    have first := version_le_advance exporter run event
    have others := version_le_runAll exporter (run.advance exporter event) rest
    -- Versions only grow, so none of the events in between has raised this one.
    have still : (run.advance exporter event).version = run.version :=
      Nat.le_antisymm (others.trans same.le) first
    have kept : (run.advance exporter event).Skips exporter ∧
        (run.advance exporter event).attempts = run.attempts ∧
        (run.advance exporter event).tree = run.tree := by
      cases event with
      | update event => exact ⟨⟨skips.waits, by rw [still]; exact skips.nothing⟩, rfl, rfl⟩
      | await =>
        have nothing : run.advance exporter .await = run := by
          simp [advance, waits, skips.nothing]
        rw [nothing]
        exact ⟨skips, rfl, rfl⟩
      | take now =>
        have nothing : run.advance exporter (.take now) = run := by simp [advance, waits]
        rw [nothing]
        exact ⟨skips, rfl, rfl⟩
      | save breakdown =>
        have nothing : run.advance exporter (.save breakdown) = run := by
          simp [advance, waits]
        rw [nothing]
        exact ⟨skips, rfl, rfl⟩
    obtain ⟨attempts, tree⟩ := ih kept.1 (same.trans still.symm)
    exact ⟨attempts.trans kept.2.1, tree.trans kept.2.2⟩

/-- The last snapshot that was written is one of a version from some one on exactly if any that
was written is. -/
theorem lastWritten?_of_ordered {run : ExportRun}
    (ordered : run.attempts.Pairwise fun later earlier => earlier.taken ≤ later.taken)
    (reached : Nat) :
    (∃ written, run.lastWritten? = some written ∧ reached ≤ written.taken) ↔
      ∃ attempt ∈ run.attempts, reached ≤ attempt.taken ∧ attempt.fault = none := by
  constructor
  · rintro ⟨written, last, late⟩
    have done := List.find?_some last
    exact ⟨written, List.mem_of_find?_eq_some last, late, Option.isNone_iff_eq_none.mp done⟩
  · rintro ⟨attempt, member, late, done⟩
    have present : run.lastWritten?.isSome = true := by
      rw [lastWritten?, List.find?_isSome]
      exact ⟨attempt, member, by simp [done]⟩
    obtain ⟨written, last⟩ := Option.isSome_iff_exists.mp present
    obtain ⟨-, after, before, split, failed⟩ := List.find?_eq_some_iff_append.mp last
    refine ⟨written, last, late.trans ?_⟩
    rw [split] at member ordered
    rcases List.mem_append.mp member with early | rest
    · have notDone := failed attempt early
      simp [done] at notDone
    · rcases List.mem_cons.mp rest with rfl | earlier
      · exact Nat.le_refl _
      · exact (List.pairwise_cons.mp (List.pairwise_append.mp ordered).2.1).1 attempt earlier

/-- Whatever batches, purges and refusals of the operating system come in between of the steps
of the exporter: where it passes a version over, it is not asked to write at regular intervals,
and the version is the one that it remembers.  If a batch has been applied, its last attempt was
at a snapshot of that version and was at most refused by the operating system.  The target has
the snapshot that was written last, or what it had at the start.  That snapshot is of the version
that is remembered exactly if an attempt at this version went through; and if none did, nothing
is tried again before the version changes. -/
theorem skipped_version_written_iff (exporter : Exporter) (history : History) (tree : FileTree)
    (events : List Event) :
    let run := (initial history tree).runAll exporter events
    run.Skips exporter → 0 < run.version →
      exporter.refresh ≤ 0 ∧ run.remembered = run.version ∧
      (∃ last earlier, run.attempts = last :: earlier ∧ last.remembered = run.remembered ∧
        last.taken = run.remembered ∧ ∀ fault, last.fault = some fault → fault.isSystem = true) ∧
      TargetHas exporter (tree.read? exporter.path) run ∧
      ((∃ written, run.lastWritten? = some written ∧ run.remembered ≤ written.taken) ↔
        ∃ attempt ∈ run.attempts, attempt.taken = run.remembered ∧ attempt.fault = none) ∧
      ∀ later, (run.runAll exporter later).version = run.version →
        (run.runAll exporter later).attempts = run.attempts ∧
          (run.runAll exporter later).tree = run.tree := by
  intro run skips applied
  have keeps : Keeps exporter (tree.read? exporter.path) run :=
    (keeps_initial exporter history tree).runAll events
  obtain ⟨waits, still, same⟩ := (Skips.iff exporter run).mp skips
  have bounded (attempt : Attempt) (member : attempt ∈ run.attempts) :
      attempt.taken ≤ run.remembered := (keeps.taken attempt member).trans_eq same
  refine ⟨still, same.symm, ?_, keeps.target, ?_, fun later => skips.runAll⟩
  · cases keeps.staged with
    | fresh _ first _ => omega
    | waiting last earlier _ split own late mild =>
      have reached := bounded last (by rw [split]; exact List.mem_cons_self)
      exact ⟨last, earlier, split, own, Nat.le_antisymm reached late, mild⟩
    | due begins => cases waits.symm.trans begins
    | holding _ _ holds _ _ _ => cases waits.symm.trans holds
    | ended stops => cases waits.symm.trans stops
  · rw [lastWritten?_of_ordered keeps.ordered]
    constructor
    · rintro ⟨attempt, member, late, done⟩
      exact ⟨attempt, member, Nat.le_antisymm (bounded attempt member) late, done⟩
    · rintro ⟨attempt, member, own, done⟩
      exact ⟨attempt, member, own.ge, done⟩

/-- The operating system refuses the snapshot of a first batch and takes that of the second. -/
theorem second_version_written_behind_refusal :
    let lease : Lease := ⟨⟨List.replicate 12 7, rfl⟩, .v4 1, "printer", none, none⟩
    let exporter : Exporter := ⟨⟨⟨[]⟩, Registry.empty, 5, "lan", 1⟩, "export.json", 0⟩
    let clock : Moment := ⟨0, some 0, by decide⟩
    let batch : List Event :=
      [.update (.takeUp [lease] clock), .update .proceed, .update .proceed, .update .proceed,
        .await, .take clock]
    let refused : Export.Breakdown := ⟨1, ['\x7b'], .beyondClock, rfl⟩
    let history := History.create "clients.db"
    let events := batch ++ [.save (some refused)] ++ batch ++ [.save none]
    let run := (initial history Index.empty).runAll exporter events
    run.Skips exporter ∧ 0 < run.version ∧
      run.attempts.map (fun attempt => (attempt.taken, attempt.fault)) =
        [(2, none), (1, some .beyondClock)] ∧
      ∃ written, run.lastWritten? = some written ∧ run.remembered ≤ written.taken := by
  intro lease exporter clock batch refused history events run
  have skips : run.Skips exporter := ⟨by decide +kernel, by decide +kernel⟩
  have applied : 0 < run.version := by decide +kernel
  have attempts : run.attempts.map (fun attempt => (attempt.taken, attempt.fault)) =
      [(2, none), (1, some .beyondClock)] := by
    decide +kernel
  obtain ⟨-, -, -, -, written, -⟩ :=
    skipped_version_written_iff exporter history Index.empty events skips applied
  refine ⟨skips, applied, attempts, written.mpr ?_⟩
  have member : (2, none) ∈ run.attempts.map fun attempt => (attempt.taken, attempt.fault) := by
    rw [attempts]
    exact List.mem_cons_self
  obtain ⟨attempt, present, told⟩ := List.mem_map.mp member
  obtain ⟨taken, fault⟩ := Prod.mk.inj told
  have remembered : run.remembered = 2 := by decide +kernel
  exact ⟨attempt, present, taken.trans remembered.symm, fault⟩

/-- The only batch is not written, since a file stands where the directory of the target is to
be.  The exporter passes its version over and never comes back to it. -/
theorem refused_version_never_written :
    let lease : Lease := ⟨⟨List.replicate 12 7, rfl⟩, .v4 1, "printer", none, none⟩
    let exporter : Exporter := ⟨⟨⟨[]⟩, Registry.empty, 5, "lan", 1⟩, "blk/export.json", 0⟩
    let clock : Moment := ⟨0, some 0, by decide⟩
    let tree : FileTree := Index.empty.insert "blk" (.file [])
    let events : List Event :=
      [.update (.takeUp [lease] clock), .update .proceed, .update .proceed, .update .proceed,
        .await, .take clock, .save none]
    let run := (initial (History.create "clients.db") tree).runAll exporter events
    run.Skips exporter ∧ 0 < run.version ∧
      run.attempts.map Attempt.fault = [some .alreadyExists] ∧
      (¬ ∃ written, run.lastWritten? = some written ∧ run.remembered ≤ written.taken) ∧
      ∀ later, (run.runAll exporter later).version = run.version →
        (run.runAll exporter later).tree.read? exporter.path = none := by
  intro lease exporter clock tree events run
  have skips : run.Skips exporter := ⟨by decide +kernel, by decide +kernel⟩
  have attempts : run.attempts.map Attempt.fault = [some .alreadyExists] := by decide +kernel
  have nothing : run.tree.read? exporter.path = none := by decide +kernel
  refine ⟨skips, by decide +kernel, attempts, ?_, fun later same => ?_⟩
  · rintro ⟨written, last, -⟩
    have member : written.fault ∈ run.attempts.map Attempt.fault :=
      List.mem_map_of_mem (List.mem_of_find?_eq_some last)
    have done := List.find?_some last
    rw [attempts, List.mem_singleton] at member
    simp [member] at done
  · rw [(skips.runAll same).2]
    exact nothing

end ExportRun

end LeaseRoster
