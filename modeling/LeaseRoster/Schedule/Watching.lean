import LeaseRoster.Feed.Watch

/-!
# Watching under a schedule

What happens to the lease file, and when the watcher looks at it, is again a list of
events.  The loop of the watcher looks once whatever the file is like, and then once
behind each of its rounds.
-/

namespace LeaseRoster

namespace Schedule

/-- Something that happens to the lease file, or a look at it. -/
inductive FileEvent
  | put (file : LeaseFile)
  | look (force : Bool)
  | watch (rounds : List (List FileEvent))
deriving Inhabited

/-- What an event answers. -/
inductive FileAnswer
  | nothing
  | handedOn (value : Bool)
  | rounds (rounds : List (List
      (Except Fault FileAnswer × List (List Lease) × List Notice)))

/-- The report on an event: its answer or fault, the batches handed on, and the
notices. -/
abbrev FileReport := Except Fault FileAnswer × List (List Lease) × List Notice

/-- The lease file, its watcher and the time between two looks, with the batches and
the notices of the next report. -/
structure Watching where
  file : LeaseFile
  watcher : Watcher
  interval : Datum
  batches : List (List Lease)
  pending : List Notice

namespace Watching

/-- The state before anything happens: there is no file. -/
def initial (path : String) (interval : Datum) : Watching :=
  ⟨.missing, Watcher.start path, interval, [], []⟩

def look (state : Watching) (force : Bool) : Watching × Except Fault Bool :=
  let look := state.watcher.look force state.file
  let next :=
    { state with
      watcher := look.watcher
      batches := state.batches ++ look.submitted.toList
      pending := state.pending ++ look.notices }
  match look.fault with
  | some fault => (next, .error fault)
  | none => (next, .ok look.submitted.isSome)

/-- The report on an event, and the state with nothing pending. -/
def report (state : Watching) (outcome : Except Fault FileAnswer) :
    FileReport × Watching :=
  ((outcome, state.batches, state.pending), { state with batches := [], pending := [] })

mutual

def run (state : Watching) : FileEvent → Watching × Except Fault FileAnswer
  | .put file => ({ state with file }, .ok .nothing)
  | .look force =>
    match state.look force with
    | (next, .ok submitted) => (next, .ok (.handedOn submitted))
    | (next, .error fault) => (next, .error fault)
  | .watch rounds =>
    match Field.plainNumber state.interval with
    | .error fault => (state, .error fault)
    | .ok interval =>
      let notice := Notice.leaseFileWatched state.watcher.path interval
      watchRounds { state with pending := state.pending ++ [notice] } true [] rounds

/-- Lets some events happen one after the other, with a report on each. -/
def runAll (state : Watching) : List FileEvent → List FileReport × Watching
  | [] => ([], state)
  | event :: rest =>
    let (next, outcome) := run state event
    let (first, ready) := report next outcome
    let (others, last) := runAll ready rest
    (first :: others, last)

/-- Looks at the file before every round and after the last one. -/
def watchRounds (state : Watching) (force : Bool) (reports : List (List FileReport)) :
    List (List FileEvent) → Watching × Except Fault FileAnswer
  | [] =>
    match state.look force with
    | (next, .error fault) => (next, .error fault)
    | (next, .ok _) => (next, .ok (.rounds reports))
  | round :: rest =>
    match state.look force with
    | (next, .error fault) => (next, .error fault)
    | (next, .ok _) =>
      let (answers, after) := runAll next round
      watchRounds after false (reports ++ [answers]) rest

end

end Watching

end Schedule

end LeaseRoster
