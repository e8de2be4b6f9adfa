import LeaseRoster.Roster.Export
import LeaseRoster.History.Purge
import LeaseRoster.Schedule.Action

/-!
# Running a schedule

A session runs the actions of a schedule in their order.  It has the clock, the
configuration, the roster and the files that the actions work on, and collects the
notices of each action for its report.  On demand a snapshot is taken behind every
write to the history, as a reader that comes in between would take it.
-/

namespace LeaseRoster

namespace Schedule

/-- The state of a session.  `pending` are the notices and `seen` the past clients
that the next report will have. -/
structure Session where
  clock : Moment
  reconciler : Reconciler
  roster : Roster
  tree : FileTree
  looksBehindWrites : Bool
  pending : List Notice
  seen : List (List MacAddress)

/-- The session after an action, and its answer or fault. -/
abbrev Done := Session × Except Fault Answer

namespace Session

/-! ## Single actions -/

def note (session : Session) (notices : List Notice) : Session :=
  { session with pending := session.pending ++ notices }

/-- An action that answers its outcome and changes nothing. -/
def answer (session : Session) (outcome : Except Fault Answer) : Done :=
  (session, outcome)

/-- An action that reads the history. -/
def answerFound {α : Type} (session : Session) (form : α → Answer) :
    Except Fault (History.Found α) → Done
  | .ok found => (session.note found.notices, .ok (form found.value))
  | .error fault => (session, .error fault)

def withHistory (session : Session) (history : History) : Session :=
  { session with roster := session.roster.withHistory history }

def change (session : Session) : Except Fault History → Done
  | .ok history => (session.withHistory history, .ok .nothing)
  | .error fault => (session, .error fault)

def poolSize (session : Session) : Option Nat := session.reconciler.pool.size?

def takeSnapshot (session : Session) : History.Found Snapshot :=
  session.roster.snapshot session.reconciler session.clock

/-- Looks at the past clients behind a write, where the session is asked to. -/
def behindWrite (session : Session) : Session :=
  if session.looksBehindWrites then
    let found := session.takeSnapshot
    let macs := found.value.past.map fun client => client.sighting.mac
    { session.note found.notices with seen := session.seen ++ [macs] }
  else session

/-- The session behind a step of an update that went through; a step that leaves
notices did not write anything. -/
def behindStep (session : Session) (step : Roster.Step) (notices : List Notice) :
    Session :=
  match step with
  | .sight _ _ => if notices.isEmpty then session.behindWrite else session
  | _ => session

def performAll (session : Session) : List Roster.Step → Session × Option Fault
  | [] => (session, none)
  | step :: rest =>
    let done :=
      session.roster.perform (Roster.writeSighting session.reconciler.epoch) step
    let next := { session with roster := done.roster }.note done.notices
    match done.fault with
    | some fault => (next, some fault)
    | none => (next.behindStep step done.notices).performAll rest

/-- Enriches the leases of a feed and does the steps that the live clients call
for. -/
def update (session : Session) (feed : Feed.Outcome)
    (steps : List LiveClient → List Roster.Step) : Done :=
  let clients := session.reconciler.enrich feed.leases
  let notices := feed.notices ++ session.reconciler.enrichNotices feed.leases
  match (session.note notices).performAll (steps clients) with
  | (next, none) => (next, .ok (.live clients))
  | (next, some fault) => (next, .error fault)

/-- Enriches the leases of a feed and tracks the clients, if asked to. -/
def enrich (session : Session) (feed : Feed.Outcome) (tracked : Bool) : Done :=
  session.update feed fun clients =>
    if tracked then Roster.trackSteps session.clock clients else []

def apply (session : Session) (feed : Feed.Outcome) : Done :=
  session.update feed
    (Roster.applySteps session.clock session.roster.published.length)

def submit (session : Session) (feed : Feed.Outcome) : Done :=
  let noted := session.note feed.notices
  match noted.roster.submit feed.leases with
  | .ok roster => ({ noted with roster }, .ok .nothing)
  | .error fault => (noted, .error fault)

/-- Puts a sighting into the history, at the present time unless another one is
given. -/
def upsert (session : Session) (mac hostname : Datum) (lastSeen : Option Datum)
    (epoch : Datum) : Done :=
  match session.roster.history.upsert mac hostname
      (lastSeen.getD (.moment session.clock)) epoch with
  | .ok history => ((session.withHistory history).behindWrite, .ok .nothing)
  | .error fault => (session, .error fault)

/-- Purges the history, at the present time unless another one is given. -/
def purge (session : Session) (retention : Option Duration) (now : Option Moment) :
    Done :=
  match session.roster.history.purgeOlderThan retention (now.getD session.clock) with
  | .ok purged =>
    ((session.withHistory purged.history).note purged.notices,
      .ok (.sightings purged.removed))
  | .error fault => (session, .error fault)

def purgeOnce (session : Session) (retention : Option Duration) : Done :=
  match Purge.once session.roster.history retention session.clock with
  | .ok turn =>
    ((session.withHistory turn.history).note turn.notices,
      .ok (.purged (History.asksForPurge retention) turn.removed))
  | .error fault => (session, .error fault)

def reopen (session : Session) : Done :=
  let history := session.roster.history.reopen
  ((session.withHistory history).note [.historyOpened history.path], .ok .nothing)

/-- The past clients beside those that some values name as alive. -/
def listPast (session : Session) (alive : List Datum) : Done :=
  match Reconciler.aliveOf alive with
  | .ok macs =>
    session.answerFound .past
      (.ok (session.reconciler.pastClients session.roster.history macs))
  | .error fault => (session, .error fault)

def directoryOf (path : String) : String :=
  String.ofList (FileTree.parent path.toList)

def save (session : Session) (path : String) : Done :=
  let found := session.takeSnapshot
  let saved := Export.save path session.poolSize found.value session.tree
  let notices := found.notices ++ Export.saveNotices path found.value saved.fault
  let next := { session with tree := saved.tree }.note notices
  match saved.fault with
  | some fault => (next, .error fault)
  | none =>
    (next, .ok (.saved (saved.tree.read? path)
      (saved.tree.namesBelow (directoryOf path))))

/-- The version, for one who knows another one or has waited long enough.  What is
known must be a number. -/
def awaitVersion (session : Session) : Datum → Done
  | .whole _ => (session, .ok (.count session.roster.version))
  | .flag _ => (session, .ok (.count session.roster.version))
  | .real _ => (session, .ok (.count session.roster.version))
  | _ => (session, .error .wrongKind)

/-- The seconds between two turns of the exporter.  Without a positive number of them
it goes by the version alone, so of a number with a fraction it matters only whether
it is positive. -/
def refreshSeconds : Datum → Except Fault Int
  | .whole value => .ok value
  | .flag value => .ok (if value then 1 else 0)
  | .real value => .ok (if value.isZero || value.lt .zero then 0 else 1)
  | _ => .error .wrongKind

def turn (session : Session) : Session × Option Fault :=
  match session.roster.take? with
  | none => (session, none)
  | some (leases, roster) =>
    let (next, outcome) := { session with roster }.apply ⟨leases, []⟩
    let finished := { next with roster := next.roster.finish }
    match outcome with
    | .ok _ => (finished, none)
    | .error fault => (finished, some fault)

/-- A turn of the exporter, with the version that it remembers afterwards. -/
def exportTurn (session : Session) (path : String) (refresh : Int)
    (remembered : Nat) : Session × Nat × Option Fault :=
  let turn := Export.turn session.reconciler session.clock path session.poolSize
    refresh remembered session.roster session.tree
  ({ session with tree := turn.tree }.note turn.notices, turn.remembered, turn.fault)

/-- The report on an action, and the session with nothing pending. -/
def report (done : Done) : Report × Session :=
  ((done.2, done.1.pending, done.1.seen), { done.1 with pending := [], seen := [] })

/-! ## Schedules -/

mutual

def run (session : Session) : Action → Done
  | .refused fault => session.answer (.error fault)
  | .setClock now => ({ session with clock := now }, .ok .nothing)
  | .upsert mac hostname lastSeen epoch => session.upsert mac hostname lastSeen epoch
  | .insertRow mac hostname lastSeen epoch =>
    session.change (session.roster.history.insertRow mac hostname lastSeen epoch)
  | .listRows => session.answer (session.roster.history.listRows.map .rows)
  | .lookUp mac => session.answerFound .sighting (session.roster.history.get mac)
  | .listSightings => session.answerFound .sightings session.roster.history.fetchAll
  | .purge retention now => session.purge retention now
  | .purgeOnce retention => session.purgeOnce retention
  | .purgeLoop retention interval rounds =>
    let started := session.note [Purge.startNotice retention interval]
    if History.asksForPurge retention then purgeRounds started retention [] rounds
    else started.answer (.ok (.rounds []))
  | .close => (session.withHistory session.roster.history.close, .ok .nothing)
  | .reopen => session.reopen
  | .enrich feed tracked => session.enrich feed tracked
  | .listPast alive => session.listPast alive
  | .friendlyName mac hostname =>
    session.answer ((session.reconciler.rawFriendlyName mac hostname).map .raw)
  | .staticAddress address mac =>
    session.answerFound .flag (session.reconciler.rawStatic address mac)
  | .link hostname address mac =>
    session.answerFound .text (session.reconciler.rawLink hostname address mac)
  | .apply feed => session.apply feed
  | .showVersion => session.answer (.ok (.count session.roster.version))
  | .listCurrent =>
    session.answer (.ok (.places (session.roster.published.map fun client =>
      (client.lease.mac, client.lease.address))))
  | .snapshot =>
    let found := session.takeSnapshot
    (session.note found.notices, (found.value.toJson session.poolSize).map .published)
  | .save path => session.save path
  | .await known => session.awaitVersion known
  | .submit feed => session.submit feed
  | .applyLoop rounds => applyRounds (session.note [.batchesAwaited]) [] rounds
  | .join =>
    session.answer (.ok (.text (if session.roster.isIdle then "joined" else "pending")))
  | .exportLoop path refresh rounds => exportRounds session path refresh 0 [] rounds

/-- Does some actions one after the other, with a report on each. -/
def runAll (session : Session) : List Action → List Report × Session
  | [] => ([], session)
  | action :: rest =>
    let (first, next) := report (run session action)
    let (others, last) := runAll next rest
    (first :: others, last)

/-- Purges before every round and after the last one. -/
def purgeRounds (session : Session) (retention : Option Duration)
    (reports : List (List Report)) : List (List Action) → Done
  | [] =>
    match session.purgeOnce retention with
    | (next, .error fault) => (next, .error fault)
    | (next, .ok _) => (next, .ok (.rounds reports))
  | round :: rest =>
    match session.purgeOnce retention with
    | (next, .error fault) => (next, .error fault)
    | (next, .ok _) =>
      let (answers, after) := runAll next round
      purgeRounds after retention (reports ++ [answers]) rest

/-- Does each round and then applies the batch that is waiting. -/
def applyRounds (session : Session) (reports : List (List Report)) :
    List (List Action) → Done
  | [] => (session, .ok (.applied reports none))
  | round :: rest =>
    let (answers, after) := runAll session round
    let collected := reports ++ [answers]
    match after.turn with
    | (next, none) => applyRounds next collected rest
    | (next, some fault) => (next, .ok (.applied collected (some fault)))

/-- Does each round and then a turn of the exporter. -/
def exportRounds (session : Session) (path : String) (refresh : Datum)
    (remembered : Nat)
    (passes : List (Option (List Char) × List Report)) : List (List Action) → Done
  | [] => (session, .ok (.exported passes (session.tree.read? path)))
  | round :: rest =>
    let before := session.tree.read? path
    let (answers, after) := runAll session round
    match refreshSeconds refresh with
    | .error fault => (after, .error fault)
    | .ok seconds =>
      match after.exportTurn path seconds remembered with
      | (next, _, some fault) => (next, .error fault)
      | (next, version, none) =>
        exportRounds next path refresh version (passes ++ [(before, answers)]) rest

end

end Session

end Schedule

end LeaseRoster
