import LeaseRoster.Proofs.SightingWrites

/-!
# Runs of the service over a history that fails

Batches are submitted at any time, and one at a time is taken and applied step by step.
Any call of the history may fail.  The invariant of a run relates the batches that were
accepted, the counters, the published list and the calls that went through.

`Service.roster_runAll_turnOf` is not needed for the invariant.  It ties these runs to the turn that
the service performs in one: that is the run in which no call fails and nothing comes in between.
-/

namespace LeaseRoster

/-- The calls of the history that fail, by their number, and why they do. -/
abbrev Failures := Nat → Option HistoryCause

namespace Roster

/-- How a sighting is written by the call with a number, which fails or does not. -/
def failingWrite (fails : Failures) (epoch : Int) (number : Nat) : Write :=
  fun lease now history =>
    match fails number with
    | some cause => .error (.history (.upserting lease.mac.toString) cause)
    | none => writeSighting epoch lease now history

/-- The number of calls of the history that a step makes. -/
def Step.calls : Step → Nat
  | .publish _ => 0
  | .sight _ _ => 1
  | .announce _ _ => 0

end Roster

/-- A batch of leases that is taken to be applied, and the clock by which it is. -/
structure Taken where
  leases : List Lease
  now : Moment

namespace Taken

/-- Whether the clock and the names of a batch can be stored. -/
def IsStorable (taken : Taken) : Prop :=
  taken.now.toUniversal?.isSome = true ∧ ∀ lease ∈ taken.leases, lease.isStorable = true

/-- The calls that write some live clients at a time. -/
def callsFor (now : Moment) (clients : List LiveClient) : List (Lease × Moment) :=
  clients.map fun client => (client.lease, now)

/-- The calls that write all clients of a batch, in their published order. -/
def calls (reconciler : Reconciler) (taken : Taken) : List (Lease × Moment) :=
  callsFor taken.now (reconciler.enrich taken.leases)

/-- The calls that write all clients of some batches. -/
def allCalls (reconciler : Reconciler) (batches : List Taken) : List (Lease × Moment) :=
  batches.flatMap (calls reconciler)

/-- The leases of the last batch, none before the first. -/
def lastLeases (batches : List Taken) : List Lease :=
  (batches.getLast?.map leases).getD []

end Taken

/-- The calls that go through, in their order. -/
def granted (fails : Failures) (calls : List (Lease × Moment)) : List (Lease × Moment) :=
  (calls.zipIdx.filter fun numbered => (fails numbered.2).isNone).map Prod.fst

/-- The history with some sightings written one after the other. -/
def writeAll (epoch : Int) (calls : List (Lease × Moment)) (history : History) :
    Except Fault History :=
  calls.foldlM (fun history call => Roster.writeSighting epoch call.1 call.2 history) history

/-- The running service: the roster, the batch that is being applied with the steps that
are still to be done, the number of calls of the history, the batches that were accepted,
those that were applied, and the snapshots that were taken. -/
structure Service where
  roster : Roster
  inHand : Option (Taken × List Roster.Step)
  calls : Nat
  accepted : List (List Lease)
  applied : List Taken
  shown : List Snapshot

namespace Service

/-- What may happen next: a batch is submitted, the waiting batch is taken, the next step
of the batch in hand is done, or a snapshot is taken. -/
inductive Event
  | submit (leases : List Lease)
  | take (now : Moment)
  | proceed
  | snapshot (now : Moment)

/-- Whether the clock and the names that an event brings can be stored, within the limit of
`Lease.isStorable`. -/
def Event.isStorable : Event → Bool
  | .submit leases => leases.all Lease.isStorable
  | .take now => now.toUniversal?.isSome
  | .proceed => true
  | .snapshot _ => true

/-- The service behind a step of the batch in hand.  The batch is finished with its last
step, and with a step that is stopped by a fault. -/
def settle (service : Service) (taken : Taken) (done : Roster.Outcome) :
    List Roster.Step → Service
  | [] =>
    { service with
      roster := done.roster.finish
      inHand := none
      applied := if done.fault.isSome then service.applied else service.applied ++ [taken] }
  | step :: rest =>
    if done.fault.isSome then { service with roster := done.roster.finish, inHand := none }
    else { service with roster := done.roster, inHand := some (taken, step :: rest) }

/-- The service behind an event.  What cannot happen changes nothing. -/
def advance (reconciler : Reconciler) (fails : Failures) (service : Service) :
    Event → Service
  | .submit leases =>
    match service.roster.submit leases with
    | .ok roster => { service with roster, accepted := service.accepted ++ [leases] }
    | .error _ => service
  | .take now =>
    match service.inHand, service.roster.take? with
    | none, some (leases, roster) =>
      { service with
        roster
        inHand := some (⟨leases, now⟩, Roster.applySteps now roster.published.length
          (reconciler.enrich leases)) }
    | _, _ => service
  | .proceed =>
    match service.inHand with
    | some (taken, step :: rest) =>
      { service with calls := service.calls + step.calls }.settle taken
        (service.roster.perform
          (Roster.failingWrite fails reconciler.epoch service.calls) step) rest
    | _ => service
  | .snapshot now =>
    { service with
      shown := service.shown ++ [(service.roster.snapshot reconciler now).value] }

/-- The service over a history before anything happens. -/
def initial (history : History) : Service := ⟨Roster.initial history, none, 0, [], [], []⟩

/-- The service behind some events. -/
def runAll (reconciler : Reconciler) (fails : Failures) (service : Service)
    (events : List Event) : Service :=
  events.foldl (advance reconciler fails) service

/-- A whole turn: the waiting batch is taken, and all its steps are done. -/
def turnOf (leases : List Lease) (now : Moment) : List Event :=
  .take now :: List.replicate (leases.length + 2) .proceed

/-- The batch in hand, if any. -/
def held (service : Service) : List Taken := (service.inHand.map Prod.fst).toList

end Service

/-! ## Single events -/

namespace Service

theorem runAll_cons (reconciler : Reconciler) (fails : Failures) (service : Service)
    (event : Event) (rest : List Event) :
    service.runAll reconciler fails (event :: rest) =
      (service.advance reconciler fails event).runAll reconciler fails rest := rfl

theorem advance_take (reconciler : Reconciler) (fails : Failures) {service : Service}
    (free : service.inHand = none) {leases : List Lease}
    (waits : service.roster.waiting = some leases) (now : Moment) :
    service.advance reconciler fails (.take now) =
      { service with
        roster := { service.roster with waiting := none }
        inHand := some (⟨leases, now⟩, Roster.applySteps now service.roster.published.length
          (reconciler.enrich leases)) } := by
  simp [advance, free, Roster.take?, waits]

theorem settle_of_rest (service : Service) (taken : Taken) {done : Roster.Outcome}
    (goes : done.fault = none) {rest : List Roster.Step} (more : rest ≠ []) :
    service.settle taken done rest =
      { service with roster := done.roster, inHand := some (taken, rest) } := by
  cases rest with
  | nil => exact (more rfl).elim
  | cons step rest => simp [settle, goes]

/-- Publishing the batch in hand calls the history not at all. -/
theorem advance_publish (reconciler : Reconciler) (fails : Failures) {service : Service}
    {taken : Taken} {before : Nat} {clients : List LiveClient}
    (hand : service.inHand = some (taken, Roster.applySteps taken.now before clients)) :
    service.advance reconciler fails .proceed =
      { service with
        roster := { service.roster with published := clients }
        inHand := some (taken,
          Roster.trackSteps taken.now clients ++ [.announce before clients.length]) } := by
  simp only [advance, hand, Roster.applySteps, List.cons_append, Roster.Step.calls]
  rw [settle_of_rest _ _ rfl (by simp)]
  rfl

/-- Announcing the batch in hand finishes it. -/
theorem advance_announce (reconciler : Reconciler) (fails : Failures) {service : Service}
    {taken : Taken} {before after : Nat}
    (hand : service.inHand = some (taken, [.announce before after])) :
    service.advance reconciler fails .proceed =
      { service with
        roster := { service.roster with
          applied := service.roster.applied + 1
          version := service.roster.version + 1 }.finish
        inHand := none
        applied := service.applied ++ [taken] } := by
  simp [advance, hand, settle, Roster.perform, Roster.Step.calls]

/-! ## Whole turns -/

theorem runAll_proceed_of_free (reconciler : Reconciler) (fails : Failures) {service : Service}
    (free : service.inHand = none) (count : Nat) :
    service.runAll reconciler fails (List.replicate count .proceed) = service := by
  induction count with
  | zero => rfl
  | succ count ih =>
    have still : service.advance reconciler fails .proceed = service := by
      simp [advance, free]
    rw [List.replicate_succ, runAll_cons, still]
    exact ih

/-- The next step of the batch in hand over a history that never fails. -/
theorem advance_proceed (reconciler : Reconciler) {service : Service} {taken : Taken}
    {step : Roster.Step} {rest : List Roster.Step}
    (hand : service.inHand = some (taken, step :: rest)) :
    service.advance reconciler (fun _ => none) .proceed =
      { service with calls := service.calls + step.calls }.settle taken
        (service.roster.perform (Roster.writeSighting reconciler.epoch) step) rest := by
  unfold advance
  rw [hand]
  rfl

/-- Going on until the batch in hand ends does the rest of its steps in a row. -/
theorem roster_runAll_settle (reconciler : Reconciler) (service : Service) (taken : Taken)
    (done : Roster.Outcome) (rest : List Roster.Step) :
    ((service.settle taken done rest).runAll reconciler (fun _ => none)
      (List.replicate rest.length .proceed)).roster =
        (if done.fault.isSome then done.roster
          else (done.roster.performAll (Roster.writeSighting reconciler.epoch)
            rest).roster).finish := by
  induction rest generalizing service done with
  | nil => cases stopped : done.fault <;> rfl
  | cons step rest ih =>
    cases stopped : done.fault with
    | some fault =>
      have finished : service.settle taken done (step :: rest) =
          { service with roster := done.roster.finish, inHand := none } := by
        simp [settle, stopped]
      rw [finished, runAll_proceed_of_free reconciler _ rfl]
      rfl
    | none =>
      rw [settle_of_rest service taken stopped (List.cons_ne_nil step rest), List.length_cons,
        List.replicate_succ, runAll_cons, advance_proceed reconciler rfl]
      refine (ih _ _).trans ?_
      rw [Roster.performAll]
      cases (done.roster.perform (Roster.writeSighting reconciler.epoch) step).fault <;> rfl

/-- Over a history that never fails a whole turn is what the service does in one. -/
theorem roster_runAll_turnOf (reconciler : Reconciler) {service : Service}
    (free : service.inHand = none) {leases : List Lease}
    (waits : service.roster.waiting = some leases) (now : Moment) :
    (service.runAll reconciler (fun _ => none) (turnOf leases now)).roster =
      (service.roster.turn reconciler now).roster := by
  have steps : leases.length + 1 = (Roster.trackSteps now (reconciler.enrich leases) ++
      [Roster.Step.announce service.roster.published.length
        (reconciler.enrich leases).length]).length := by
    simp [Roster.trackSteps, Reconciler.enrich]
  rw [turnOf, runAll_cons, advance_take reconciler _ free waits, List.replicate_succ,
    runAll_cons, advance_proceed reconciler rfl, steps]
  refine (roster_runAll_settle reconciler _ _ _ _).trans ?_
  simp [Roster.turn, Roster.take?, waits, Roster.applyBatch, Roster.applySteps,
    Roster.Outcome.after, Roster.performAll, Roster.perform]

end Service

/-! ## Calls that go through -/

theorem granted_append_singleton (fails : Failures) (calls : List (Lease × Moment))
    (call : Lease × Moment) :
    granted fails (calls ++ [call]) =
      granted fails calls ++ if (fails calls.length).isNone then [call] else [] := by
  rw [granted, List.zipIdx_append, List.filter_append, List.map_append]
  congr 1
  by_cases passes : (fails calls.length).isNone = true
  · simp [List.zipIdx_cons, passes]
  · simp [List.zipIdx_cons, passes]

theorem writeAll_append_singleton {epoch : Int} {calls : List (Lease × Moment)}
    {call : Lease × Moment} {history written next : History}
    (before : writeAll epoch calls history = .ok written)
    (writes : Roster.writeSighting epoch call.1 call.2 written = .ok next) :
    writeAll epoch (calls ++ [call]) history = .ok next := by
  unfold writeAll at before ⊢
  rw [List.foldlM_append, before]
  simp [bind, Except.bind, writes, pure, Except.pure]

theorem Taken.allCalls_append_singleton (reconciler : Reconciler) (batches : List Taken)
    (last : Taken) :
    allCalls reconciler (batches ++ [last]) =
      allCalls reconciler batches ++ last.calls reconciler := by
  simp [allCalls]

theorem Taken.lastLeases_append_singleton (batches : List Taken) (last : Taken) :
    lastLeases (batches ++ [last]) = last.leases := by
  simp [lastLeases]

namespace Service

/-! ## The invariant -/

/-- How far the batch in hand has come, what is published meanwhile, and the calls of the
history that were made. -/
inductive Stage (reconciler : Reconciler) (service : Service) : List (Lease × Moment) → Prop
  | idle (free : service.inHand = none)
      (shows : service.roster.published =
        reconciler.enrich (Taken.lastLeases service.applied)) :
      Stage reconciler service (Taken.allCalls reconciler service.applied)
  | fresh (taken : Taken) (before : Nat) (storable : taken.IsStorable)
      (hand : service.inHand = some (taken,
        Roster.applySteps taken.now before (reconciler.enrich taken.leases)))
      (shows : service.roster.published =
        reconciler.enrich (Taken.lastLeases service.applied)) :
      Stage reconciler service (Taken.allCalls reconciler service.applied)
  | tracking (taken : Taken) (before after : Nat) (done rest : List LiveClient)
      (storable : taken.IsStorable) (split : reconciler.enrich taken.leases = done ++ rest)
      (hand : service.inHand = some (taken,
        Roster.trackSteps taken.now rest ++ [.announce before after]))
      (shows : service.roster.published = reconciler.enrich taken.leases) :
      Stage reconciler service
        (Taken.allCalls reconciler service.applied ++ Taken.callsFor taken.now done)

/-- The service keeps what it accepts: every batch is applied, in hand or waiting, the
counters count the batches that are applied, and the history holds what the calls that
went through have written. -/
structure Keeps (reconciler : Reconciler) (fails : Failures) (start : History)
    (service : Service) (calls : List (Lease × Moment)) : Prop where
  batches : service.accepted = service.applied.map Taken.leases ++
    service.held.map Taken.leases ++ service.roster.waiting.toList
  version : service.roster.version = service.applied.length
  count : service.roster.applied = service.applied.length
  storable : ∀ leases ∈ service.roster.waiting, ∀ lease ∈ leases, lease.isStorable = true
  stage : Stage reconciler service calls
  numbered : service.calls = calls.length
  usable : service.roster.history.isOpen = true
  written : writeAll reconciler.epoch (granted fails calls) start = .ok service.roster.history

theorem keeps_initial (reconciler : Reconciler) (fails : Failures) {history : History}
    (usable : history.isOpen = true) :
    Keeps reconciler fails history (initial history) [] where
  batches := rfl
  version := rfl
  count := rfl
  storable := by simp [initial, Roster.initial]
  stage := .idle rfl (by simp [initial, Roster.initial, Taken.lastLeases, Reconciler.enrich])
  numbered := rfl
  usable := usable
  written := rfl

section Advance

variable {reconciler : Reconciler} {fails : Failures} {start : History} {service : Service}
  {calls : List (Lease × Moment)}

theorem Stage.transfer (stage : Stage reconciler service calls) {other : Service}
    (hand : other.inHand = service.inHand)
    (shows : other.roster.published = service.roster.published)
    (applied : other.applied = service.applied) : Stage reconciler other calls := by
  cases stage with
  | idle free shown =>
    rw [← applied]
    exact .idle (hand.trans free) (by rw [shows, shown, applied])
  | fresh taken before storable held shown =>
    rw [← applied]
    exact .fresh taken before storable (hand.trans held) (by rw [shows, shown, applied])
  | tracking taken before after done rest storable split held shown =>
    rw [← applied]
    exact .tracking taken before after done rest storable split (hand.trans held)
      (shows.trans shown)

theorem Keeps.submit (keeps : Keeps reconciler fails start service calls)
    {leases : List Lease} (storable : (Event.submit leases).isStorable = true) :
    Keeps reconciler fails start (service.advance reconciler fails (.submit leases)) calls := by
  cases waits : service.roster.waiting with
  | some other =>
    have still : service.advance reconciler fails (.submit leases) = service := by
      simp [advance, Roster.submit, waits]
    rw [still]
    exact keeps
  | none =>
    have next : service.advance reconciler fails (.submit leases) =
        { service with
          roster := { service.roster with
            waiting := some leases
            unfinished := service.roster.unfinished + 1 }
          accepted := service.accepted ++ [leases] } := by
      simp [advance, Roster.submit, waits]
    rw [next]
    exact {
      batches := by
        rw [keeps.batches, waits]
        simp [held]
      version := keeps.version
      count := keeps.count
      storable := by simpa [Event.isStorable] using storable
      stage := keeps.stage.transfer rfl rfl rfl
      numbered := keeps.numbered
      usable := keeps.usable
      written := keeps.written }

theorem Keeps.snapshot (keeps : Keeps reconciler fails start service calls) (now : Moment) :
    Keeps reconciler fails start (service.advance reconciler fails (.snapshot now)) calls where
  batches := keeps.batches
  version := keeps.version
  count := keeps.count
  storable := keeps.storable
  stage := keeps.stage.transfer rfl rfl rfl
  numbered := keeps.numbered
  usable := keeps.usable
  written := keeps.written

theorem Keeps.take (keeps : Keeps reconciler fails start service calls)
    {now : Moment} (convertible : now.toUniversal?.isSome = true) :
    Keeps reconciler fails start (service.advance reconciler fails (.take now)) calls := by
  cases hand : service.inHand with
  | some work =>
    have still : service.advance reconciler fails (.take now) = service := by
      simp [advance, hand]
    rw [still]
    exact keeps
  | none =>
    cases waits : service.roster.waiting with
    | none =>
      have still : service.advance reconciler fails (.take now) = service := by
        simp [advance, hand, Roster.take?, waits]
      rw [still]
      exact keeps
    | some leases =>
      rw [advance_take reconciler fails hand waits]
      have storable := keeps.storable leases waits
      exact {
        batches := by
          rw [keeps.batches, waits]
          simp [held, hand]
        version := keeps.version
        count := keeps.count
        storable := by simp
        stage := by
          cases keeps.stage with
          | idle _ shows => exact .fresh ⟨leases, now⟩ _ ⟨convertible, storable⟩ rfl shows
          | fresh _ _ _ held => simp [hand] at held
          | tracking _ _ _ _ _ _ _ held => simp [hand] at held
        numbered := keeps.numbered
        usable := keeps.usable
        written := keeps.written }

theorem Keeps.publish
    (keeps : Keeps reconciler fails start service (Taken.allCalls reconciler service.applied))
    {taken : Taken} {before : Nat} (storable : taken.IsStorable)
    (hand : service.inHand = some (taken,
      Roster.applySteps taken.now before (reconciler.enrich taken.leases))) :
    Keeps reconciler fails start (service.advance reconciler fails .proceed)
      (Taken.allCalls reconciler service.applied) := by
  rw [advance_publish reconciler fails hand]
  have batches := keeps.batches
  simp only [held, hand] at batches
  have stage : Stage reconciler
      { service with
        roster := { service.roster with published := reconciler.enrich taken.leases }
        inHand := some (taken, Roster.trackSteps taken.now (reconciler.enrich taken.leases) ++
          [.announce before (reconciler.enrich taken.leases).length]) }
      (Taken.allCalls reconciler service.applied ++ Taken.callsFor taken.now []) :=
    .tracking taken before _ [] (reconciler.enrich taken.leases) storable rfl rfl rfl
  exact {
    batches := batches
    version := keeps.version
    count := keeps.count
    storable := keeps.storable
    stage := by simpa [Taken.callsFor] using stage
    numbered := keeps.numbered
    usable := keeps.usable
    written := keeps.written }

/-- A call of the history either fails and changes nothing, or writes its client. -/
theorem Keeps.perform_sight (keeps : Keeps reconciler fails start service calls)
    (fits : fitsWord reconciler.epoch = true) {lease : Lease} {now : Moment}
    (convertible : now.toUniversal?.isSome = true) (storable : lease.isStorable = true) :
    ∃ history notices,
      service.roster.perform (Roster.failingWrite fails reconciler.epoch service.calls)
        (.sight lease now) = ⟨{ service.roster with history }, notices, none⟩ ∧
      history.isOpen = true ∧
      writeAll reconciler.epoch (granted fails (calls ++ [(lease, now)])) start =
        .ok history := by
  simp only [Roster.perform, Roster.sight, Roster.failingWrite]
  -- The number of the call is its place among the calls that were made.
  rw [granted_append_singleton, ← keeps.numbered]
  cases fails service.calls with
  | some cause =>
    refine ⟨service.roster.history, _, rfl, keeps.usable, ?_⟩
    simpa using keeps.written
  | none =>
    obtain ⟨row, _, writes⟩ :=
      Roster.writeSighting_eq fits convertible storable keeps.usable
    simp only [writes]
    exact ⟨_, _, rfl, keeps.usable, writeAll_append_singleton keeps.written writes⟩

/-- The next client of the batch in hand is seen, whether its call fails or not. -/
theorem Keeps.advance_sight (keeps : Keeps reconciler fails start service calls)
    (fits : fitsWord reconciler.epoch = true) {taken : Taken} {before after : Nat}
    {done rest : List LiveClient} {client : LiveClient} (storable : taken.IsStorable)
    (split : reconciler.enrich taken.leases = done ++ client :: rest)
    (hand : service.inHand = some (taken,
      Roster.trackSteps taken.now (client :: rest) ++ [.announce before after])) :
    ∃ history, service.advance reconciler fails .proceed =
        { service with
          roster := { service.roster with history }
          inHand := some (taken,
            Roster.trackSteps taken.now rest ++ [.announce before after])
          calls := service.calls + 1 } ∧
      history.isOpen = true ∧
      writeAll reconciler.epoch (granted fails (calls ++ [(client.lease, taken.now)])) start =
        .ok history := by
  have fromBatch : client.lease.isStorable = true :=
    reconciler.isStorable_of_mem_enrich storable.2 (by simp [split])
  obtain ⟨history, notices, performed, usable, written⟩ :=
    keeps.perform_sight fits storable.1 fromBatch
  refine ⟨history, ?_, usable, written⟩
  simp only [advance, hand, Roster.trackSteps, List.map_cons, List.cons_append, performed,
    Roster.Step.calls]
  rw [settle_of_rest _ _ rfl (by simp)]

/-- Seeing a client adds its call to those that were made. -/
theorem Keeps.sight {taken : Taken} {done : List LiveClient}
    (keeps : Keeps reconciler fails start service
      (Taken.allCalls reconciler service.applied ++ Taken.callsFor taken.now done))
    (fits : fitsWord reconciler.epoch = true) {before after : Nat} {client : LiveClient}
    {rest : List LiveClient} (storable : taken.IsStorable)
    (split : reconciler.enrich taken.leases = done ++ client :: rest)
    (hand : service.inHand = some (taken,
      Roster.trackSteps taken.now (client :: rest) ++ [.announce before after]))
    (shows : service.roster.published = reconciler.enrich taken.leases) :
    Keeps reconciler fails start (service.advance reconciler fails .proceed)
      (Taken.allCalls reconciler service.applied ++
        Taken.callsFor taken.now (done ++ [client])) := by
  obtain ⟨history, next, usable, written⟩ := keeps.advance_sight fits storable split hand
  rw [next]
  have batches := keeps.batches
  simp only [held, hand] at batches
  have made : Taken.allCalls reconciler service.applied ++
      Taken.callsFor taken.now (done ++ [client]) =
        Taken.allCalls reconciler service.applied ++ Taken.callsFor taken.now done ++
          [(client.lease, taken.now)] := by
    simp [Taken.callsFor]
  exact {
    batches := batches
    version := keeps.version
    count := keeps.count
    storable := keeps.storable
    stage := .tracking taken before after (done ++ [client]) rest storable
      (by rw [split, List.append_assoc]; rfl) rfl shows
    numbered := by rw [made, List.length_append, ← keeps.numbered]; rfl
    usable := usable
    written := made ▸ written }

theorem Keeps.announce {taken : Taken} {done : List LiveClient}
    (keeps : Keeps reconciler fails start service
      (Taken.allCalls reconciler service.applied ++ Taken.callsFor taken.now done))
    {before after : Nat} (split : reconciler.enrich taken.leases = done)
    (hand : service.inHand = some (taken, [.announce before after]))
    (shows : service.roster.published = reconciler.enrich taken.leases) :
    Keeps reconciler fails start (service.advance reconciler fails .proceed)
      (Taken.allCalls reconciler (service.applied ++ [taken])) := by
  have made : Taken.allCalls reconciler (service.applied ++ [taken]) =
      Taken.allCalls reconciler service.applied ++ Taken.callsFor taken.now done := by
    rw [Taken.allCalls_append_singleton, Taken.calls, split]
  rw [advance_announce reconciler fails hand]
  exact {
    batches := by
      rw [keeps.batches]
      simp [held, hand, Roster.finish]
    version := by simp [Roster.finish, keeps.version]
    count := by simp [Roster.finish, keeps.count]
    storable := keeps.storable
    stage := .idle rfl (by
      rw [Taken.lastLeases_append_singleton]
      exact shows)
    numbered := made ▸ keeps.numbered
    usable := keeps.usable
    written := made ▸ keeps.written }

theorem Keeps.proceed (keeps : Keeps reconciler fails start service calls)
    (fits : fitsWord reconciler.epoch = true) :
    ∃ calls, Keeps reconciler fails start (service.advance reconciler fails .proceed) calls := by
  cases keeps.stage with
  | idle free =>
    have still : service.advance reconciler fails .proceed = service := by
      simp [advance, free]
    rw [still]
    exact ⟨_, keeps⟩
  | fresh taken before storable hand => exact ⟨_, keeps.publish storable hand⟩
  | tracking taken before after done rest storable split hand shows =>
    cases rest with
    | nil => exact ⟨_, keeps.announce (split.trans (List.append_nil done)) hand shows⟩
    | cons client rest => exact ⟨_, keeps.sight fits storable split hand shows⟩

theorem Keeps.advance (keeps : Keeps reconciler fails start service calls)
    (fits : fitsWord reconciler.epoch = true) {event : Event}
    (storable : event.isStorable = true) :
    ∃ calls, Keeps reconciler fails start (service.advance reconciler fails event) calls := by
  cases event with
  | submit leases => exact ⟨_, keeps.submit storable⟩
  | take now => exact ⟨_, keeps.take storable⟩
  | proceed => exact keeps.proceed fits
  | snapshot now => exact ⟨_, keeps.snapshot now⟩

theorem Keeps.runAll (keeps : Keeps reconciler fails start service calls)
    (fits : fitsWord reconciler.epoch = true) {events : List Event}
    (storable : ∀ event ∈ events, event.isStorable = true) :
    ∃ calls, Keeps reconciler fails start (service.runAll reconciler fails events) calls := by
  induction events generalizing service calls with
  | nil => exact ⟨calls, keeps⟩
  | cons event rest ih =>
    obtain ⟨_, next⟩ := keeps.advance fits (storable event (by simp))
    exact ih next fun other member => storable other (List.mem_cons_of_mem _ member)

/-- The batch in hand is applied when its clients are seen and it is announced. -/
theorem Keeps.tracking_ends {taken : Taken} {done rest : List LiveClient}
    (keeps : Keeps reconciler fails start service
      (Taken.allCalls reconciler service.applied ++ Taken.callsFor taken.now done))
    (fits : fitsWord reconciler.epoch = true) {before after : Nat}
    (storable : taken.IsStorable) (split : reconciler.enrich taken.leases = done ++ rest)
    (hand : service.inHand = some (taken,
      Roster.trackSteps taken.now rest ++ [.announce before after]))
    (shows : service.roster.published = reconciler.enrich taken.leases) :
    let last := service.runAll reconciler fails (List.replicate (rest.length + 1) .proceed)
    last.inHand = none ∧ last.applied = service.applied ++ [taken] := by
  -- What was seen grows by what is left, and the two together stay the whole batch.
  induction rest generalizing service done with
  | nil =>
    have next := advance_announce reconciler fails hand
    exact ⟨congrArg Service.inHand next, congrArg Service.applied next⟩
  | cons client rest ih =>
    obtain ⟨history, next, _, _⟩ := keeps.advance_sight fits storable split hand
    have kept := keeps.sight fits storable split hand shows
    rw [next] at kept
    rw [List.length_cons, List.replicate_succ, runAll_cons, next]
    exact ih kept (by rw [split, List.append_assoc]; rfl) rfl shows

/-- A batch that was just taken is applied when all its steps are done. -/
theorem Keeps.fresh_ends
    (keeps : Keeps reconciler fails start service (Taken.allCalls reconciler service.applied))
    (fits : fitsWord reconciler.epoch = true) {taken : Taken} {before : Nat}
    (storable : taken.IsStorable)
    (hand : service.inHand = some (taken,
      Roster.applySteps taken.now before (reconciler.enrich taken.leases))) :
    let last := service.runAll reconciler fails
      (List.replicate (taken.leases.length + 2) .proceed)
    last.inHand = none ∧ last.applied = service.applied ++ [taken] := by
  have published := keeps.publish storable hand
  have unseen : Taken.allCalls reconciler service.applied =
      Taken.allCalls reconciler service.applied ++ Taken.callsFor taken.now [] :=
    (List.append_nil _).symm
  have clients : taken.leases.length = (reconciler.enrich taken.leases).length := by
    simp [Reconciler.enrich]
  rw [advance_publish reconciler fails hand, unseen] at published
  rw [List.replicate_succ, runAll_cons, advance_publish reconciler fails hand, clients]
  exact published.tracking_ends fits storable rfl rfl rfl

/-- A whole turn applies the batch that waits, whatever calls of the history fail. -/
theorem Keeps.turn_ends (keeps : Keeps reconciler fails start service calls)
    (fits : fitsWord reconciler.epoch = true) (free : service.inHand = none)
    {leases : List Lease} (waits : service.roster.waiting = some leases) {now : Moment}
    (convertible : now.toUniversal?.isSome = true) :
    let last := service.runAll reconciler fails (turnOf leases now)
    last.inHand = none ∧ last.applied = service.applied ++ [⟨leases, now⟩] := by
  have storable : Taken.IsStorable ⟨leases, now⟩ :=
    ⟨convertible, keeps.storable leases waits⟩
  have made : calls = Taken.allCalls reconciler service.applied := by
    cases keeps.stage with
    | idle => rfl
    | fresh _ _ _ hand => simp [free] at hand
    | tracking _ _ _ _ _ _ _ hand => simp [free] at hand
  have taken := keeps.take convertible
  rw [advance_take reconciler fails free waits, made] at taken
  rw [turnOf, runAll_cons, advance_take reconciler fails free waits]
  exact taken.fresh_ends fits storable rfl

end Advance

/-! ## What holds at any time -/

theorem callsFor_isPrefix (reconciler : Reconciler) {taken : Taken} {done rest : List LiveClient}
    (split : reconciler.enrich taken.leases = done ++ rest) :
    Taken.callsFor taken.now done <+: taken.calls reconciler := by
  rw [Taken.calls, split, Taken.callsFor, Taken.callsFor, List.map_append]
  exact List.prefix_append _ _

/-- Whatever calls of the history fail, no accepted batch is lost, doubled or moved, the
counters count the batches that are applied, and between two turns the list shows the last
one of them and the history holds what the calls for all of them have written.  A whole
turn applies the batch that waits.  A batch that is refused and a snapshot change nothing. -/
theorem service_keeps_batches (reconciler : Reconciler)
    (fits : fitsWord reconciler.epoch = true) (fails : Failures) (start : History)
    (usable : start.isOpen = true) (events : List Event)
    (storable : ∀ event ∈ events, event.isStorable = true) :
    let service := runAll reconciler fails (initial start) events
    let stored (calls : List (Lease × Moment)) :=
      writeAll reconciler.epoch (granted fails calls) start = .ok service.roster.history
    service.accepted = service.applied.map Taken.leases ++ service.held.map Taken.leases ++
      service.roster.waiting.toList ∧
    (service.roster.version = service.applied.length ∧
      service.roster.applied = service.applied.length) ∧
    (match service.inHand with
      | none =>
        service.accepted =
          service.applied.map Taken.leases ++ service.roster.waiting.toList ∧
        service.roster.published =
          reconciler.enrich (Taken.lastLeases service.applied) ∧
        stored (Taken.allCalls reconciler service.applied)
      | some (taken, _) =>
        (service.roster.published = reconciler.enrich (Taken.lastLeases service.applied) ∨
          service.roster.published = reconciler.enrich taken.leases) ∧
        ∃ made, made <+: taken.calls reconciler ∧
          stored (Taken.allCalls reconciler service.applied ++ made)) ∧
    (∀ leases now, service.inHand = none → service.roster.waiting = some leases →
      now.toUniversal?.isSome = true →
      let last := service.runAll reconciler fails (turnOf leases now)
      last.inHand = none ∧ last.applied = service.applied ++ [⟨leases, now⟩]) ∧
    (∀ leases, (service.roster.waiting.isSome = true ↔
        service.roster.submit leases = .error .slotTaken) ∧
      ∀ fault, service.roster.submit leases = .error fault →
        service.advance reconciler fails (.submit leases) = service) ∧
    (∀ now, service.advance reconciler fails (.snapshot now) =
      { service with
        shown := service.shown ++ [(service.roster.snapshot reconciler now).value] }) := by
  intro service stored
  obtain ⟨calls, keeps⟩ : ∃ calls, Keeps reconciler fails start service calls :=
    (keeps_initial reconciler fails usable).runAll fits storable
  refine ⟨keeps.batches, ⟨keeps.version, keeps.count⟩, ?_, ?_, ?_, fun now => rfl⟩
  · have written : stored calls := keeps.written
    cases keeps.stage with
    | idle free shows =>
      have batches := keeps.batches
      simp only [held, free, Option.map_none, Option.toList_none, List.map_nil,
        List.append_nil] at batches
      rw [free]
      exact ⟨batches, shows, written⟩
    | fresh taken before storable hand shows =>
      rw [hand]
      exact ⟨Or.inl shows, [], List.nil_prefix, by rwa [List.append_nil]⟩
    | tracking taken before after done rest storable split hand shows =>
      rw [hand]
      exact ⟨Or.inr shows, _, callsFor_isPrefix reconciler split, written⟩
  · intro leases now free waits convertible
    exact keeps.turn_ends fits free waits convertible
  · intro leases
    cases waits : service.roster.waiting with
    | none => simp [Roster.submit, waits]
    | some other => simp [advance, Roster.submit, waits]

/-- A batch that is accepted while another one is applied is the one that waits. -/
theorem batch_waits_behind_batch_in_hand :
    let lease : Lease := ⟨⟨List.replicate 12 7, rfl⟩, .v4 1, "printer", none, none⟩
    let reconciler : Reconciler := ⟨⟨[]⟩, Registry.empty, 5, "lan", 1⟩
    let fails : Failures := fun number => if number = 0 then some .notDatabase else none
    let clock : Moment := ⟨0, some 0, by decide⟩
    let events : List Event :=
      [.submit [lease], .take clock, .submit [], .submit [lease]]
    let start := History.create "clients.db"
    let service := runAll reconciler fails (initial start) events
    fitsWord reconciler.epoch = true ∧ start.isOpen = true ∧
      (∀ event ∈ events, event.isStorable = true) ∧
      service.accepted = [[lease], []] ∧ service.roster.waiting = some [] := by
  intro lease reconciler fails clock events start service
  have fits : fitsWord reconciler.epoch = true := rfl
  have usable : start.isOpen = true := rfl
  have storable : ∀ event ∈ events, event.isStorable = true := by decide
  exact ⟨fits, usable, storable,
    (service_keeps_batches reconciler fits fails start usable events storable).1, rfl⟩

end Service

end LeaseRoster
