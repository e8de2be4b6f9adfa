import LeaseRoster.Reconciler
import LeaseRoster.Snapshot

/-!
# The roster

The roster is the state of the running service: the published list of live clients
with its version, the number of batches applied, the one batch that may be waiting,
and the history.  A batch is applied in small steps.  The new list is published
first, then every live client is written to the history, and at last the version
goes up; so a client that the list shows as live is never among the past clients,
whenever a snapshot is taken.
-/

namespace LeaseRoster

/-- The state of the running service. -/
structure Roster where
  published : List LiveClient
  version : Nat
  applied : Nat
  waiting : Option (List Lease)
  unfinished : Nat
  history : History

namespace Roster

def initial (history : History) : Roster := ⟨[], 0, 0, none, 0, history⟩

/-- What an operation leaves behind: the state, the notices, and the fault that
stopped it, if any. -/
structure Outcome where
  roster : Roster
  notices : List Notice
  fault : Option Fault

/-! ## Steps -/

/-- A step of an update that nothing else can come in between of. -/
inductive Step
  | publish (clients : List LiveClient)
  | sight (lease : Lease) (now : Moment)
  | announce (before after : Nat)

/-- How a sighting is written to the history. -/
abbrev Write := Lease → Moment → History → Except Fault History

def writeSighting (epoch : Int) : Write := fun lease now history =>
  history.put lease.mac lease.reportedHostname now epoch

/-- Writes the sighting of a lease.  A history that fails is reported, and the update
goes on. -/
def sight (write : Write) (roster : Roster) (lease : Lease) (now : Moment) : Outcome :=
  match write lease now roster.history with
  | .ok history => ⟨{ roster with history }, [], none⟩
  | .error (.history task cause) =>
    ⟨roster, [.clientNotTracked lease.mac (.history task cause)], none⟩
  | .error fault => ⟨roster, [], some fault⟩

def perform (write : Write) (roster : Roster) : Step → Outcome
  | .publish clients => ⟨{ roster with published := clients }, [], none⟩
  | .sight lease now => roster.sight write lease now
  | .announce before after =>
    ⟨{ roster with applied := roster.applied + 1, version := roster.version + 1 },
      [.batchApplied roster.applied before after], none⟩

/-- Does some steps one after the other, up to the first that is stopped. -/
def performAll (write : Write) (roster : Roster) : List Step → Outcome
  | [] => ⟨roster, [], none⟩
  | step :: rest =>
    let done := roster.perform write step
    match done.fault with
    | some fault => ⟨done.roster, done.notices, some fault⟩
    | none =>
      let others := done.roster.performAll write rest
      ⟨others.roster, done.notices ++ others.notices, others.fault⟩

/-- The steps that write some live clients to the history. -/
def trackSteps (now : Moment) (clients : List LiveClient) : List Step :=
  clients.map fun client => .sight client.lease now

/-- The steps that apply some live clients over a list of a given length. -/
def applySteps (now : Moment) (before : Nat) (clients : List LiveClient) : List Step :=
  .publish clients :: trackSteps now clients ++ [.announce before clients.length]

def Outcome.after (outcome : Outcome) (notices : List Notice) : Outcome :=
  { outcome with notices := notices ++ outcome.notices }

def applyBatch (reconciler : Reconciler) (now : Moment) (roster : Roster)
    (leases : List Lease) : Outcome :=
  let clients := reconciler.enrich leases
  (roster.performAll (writeSighting reconciler.epoch)
    (applySteps now roster.published.length clients)).after
      (reconciler.enrichNotices leases)

/-! ## Reading -/

/-- The snapshot of a roster, with the notices about the history. -/
def snapshot (reconciler : Reconciler) (now : Moment) (roster : Roster) :
    History.Found Snapshot :=
  let alive := roster.published.map fun client => client.lease.mac
  let past := reconciler.pastClients roster.history alive
  ⟨⟨roster.published, past.value, now⟩, past.notices⟩

/-! ## The waiting batch -/

/-- Leaves a batch for the next turn.  Only one batch can wait. -/
def submit (roster : Roster) (leases : List Lease) : Except Fault Roster :=
  match roster.waiting with
  | some _ => .error .slotTaken
  | none =>
    .ok { roster with waiting := some leases, unfinished := roster.unfinished + 1 }

def isIdle (roster : Roster) : Bool := roster.unfinished == 0

def take? (roster : Roster) : Option (List Lease × Roster) :=
  roster.waiting.map fun leases => (leases, { roster with waiting := none })

/-- A roster of which the batch that was taken is finished, in whatever way. -/
def finish (roster : Roster) : Roster :=
  { roster with unfinished := roster.unfinished - 1 }

/-- One turn of the service: the waiting batch, if any, is applied. -/
def turn (reconciler : Reconciler) (now : Moment) (roster : Roster) : Outcome :=
  match roster.take? with
  | none => ⟨roster, [], none⟩
  | some (leases, rest) =>
    let done := applyBatch reconciler now rest leases
    { done with roster := done.roster.finish }

def withHistory (roster : Roster) (history : History) : Roster :=
  { roster with history }

end Roster

end LeaseRoster
