import LeaseRoster.Feed.Watch
import LeaseRoster.History.Purge
import LeaseRoster.Roster.Export
import LeaseRoster.Startup
import Std.Time.DateTime.Timestamp

/-!
# The service as a program

The program takes its settings from the environment, reads the configuration, and then
goes round: it looks at the lease file, applies what is new, purges the history and
writes snapshots.  Files, the clock and the log are touched here alone; everything that
is decided is decided by the modules that this one calls.  The history lasts as long as
the program runs.
-/

namespace LeaseRoster

namespace Main

/-- The time of the last change of a file, its size, and whether it is a directory. -/
def statusOf (path : String) : IO (Option (FileStamp × Bool)) := do
  try
    let real ← IO.FS.realPath path
    let status ← real.metadata
    let changed := status.modified.sec * 1000000000 + status.modified.nsec.toNat
    return some (⟨changed, status.byteSize.toNat⟩, status.type == .dir)
  catch _ => return none

/-- The bytes of a file, which the operating system may refuse to read. -/
def bytesOf (path : String) : IO (List UInt8) :=
  return (← IO.FS.readBinFile path).toList

/-- What stands at the path of a file that is read as a whole. -/
def storedFile (path : String) : IO StoredFile := do
  match ← statusOf path with
  | none => return .missing
  | some (_, true) => return .directory
  | some (_, false) => return .file (← bytesOf path)

/-- Looks at the lease file.  If it has changed and cannot be read, that is reported, and the next
look tries again. -/
def look (watcher : Watcher) (force : Bool) : IO Watcher.Look := do
  match ← statusOf watcher.path with
  | none => return watcher.look force .missing
  | some (stamp, true) =>
    return watcher.look force (.directory stamp.changed stamp.size)
  | some (stamp, false) =>
    match ← (bytesOf watcher.path).toBaseIO with
    | .ok bytes => return watcher.look force (.file stamp.changed bytes)
    | .error problem =>
      if force || some stamp != watcher.remembered then
        IO.eprintln ("[LEASES] Failed to read lease file " ++ watcher.path ++ ", will retry: " ++
          problem.toString)
      return ⟨watcher, none, [], none⟩

def now : IO Moment := do
  let stamp ← Std.Time.Timestamp.now
  let micros := Int.fdiv stamp.toNanosecondsSinceUnixEpoch.val 1000
  match Moment.of? (Moment.epochMicros + micros) (some 0) with
  | some moment => return moment
  | none => throw (IO.userError "the clock is out of range")

def log (level : LogLevel) (notices : List Notice) : IO Unit := do
  for notice in notices do
    if level.rank ≤ notice.level.rank then
      IO.eprintln (String.ofList (← now).isoText ++ " " ++ notice.line .full)

/-- What the program remembers from one round to the next. -/
structure State where
  watcher : Watcher
  roster : Roster
  exported : Nat
  nextPurge : Int
  nextExport : Int

/-- Does one step of saving to a path.  The operating system may refuse it. -/
def performStep (path : String) : Export.SaveStep String → ExceptT Fault IO Unit
  | .makeDirectory directory => IO.FS.createDirAll directory
  | .start => IO.FS.writeFile (Export.temporaryPath path) ""
  | .write (.ok text) => do
    let add : IO Unit := IO.FS.withFile (Export.temporaryPath path) .append fun handle =>
      handle.putStr (String.ofList text)
    add
  | .write (.error fault) => throw fault
  | .replace => IO.FS.rename (Export.temporaryPath path) path

/-- Writes a snapshot of a roster; a failure of the operating system is reported. -/
def writeSnapshot (service : Startup.Service) (roster : Roster) : IO Unit := do
  let level := service.options.logLevel
  let path := service.options.snapshot.path
  let found := roster.snapshot service.reconciler (← now)
  log level found.notices
  let steps := Export.saveSteps path
    (Export.snapshotText found.value service.reconciler.pool.size?)
  match ← (steps.forM (performStep path)).run.toBaseIO with
  | .ok (.ok _) => log level (Export.saveNotices path found.value none)
  | .ok (.error fault) =>
    if fault.isSystem then log level [.snapshotNotWritten path fault]
    else throw (IO.userError fault.message)
  | .error problem =>
    IO.eprintln ("Failed to write snapshot " ++ path ++ ": " ++ problem.toString)

/-- Looks at the lease file and applies its leases, if there are new ones. -/
def lookAndApply (service : Startup.Service) (force : Bool) (state : State) :
    IO State := do
  let level := service.options.logLevel
  let look ← look state.watcher force
  log level look.notices
  match look.fault, look.submitted with
  | some fault, _ => throw (IO.userError fault.message)
  | none, none => return { state with watcher := look.watcher }
  | none, some leases =>
    let done := Roster.applyBatch service.reconciler (← now) state.roster leases
    log level done.notices
    match done.fault with
    | some fault => throw (IO.userError fault.message)
    | none => return { state with watcher := look.watcher, roster := done.roster }

def purgeWhenDue (service : Startup.Service) (state : State) : IO State := do
  let server := service.options.server
  let moment ← now
  if History.asksForPurge server.retention && state.nextPurge ≤ moment.instant then
    match Purge.once state.roster.history server.retention moment with
    | .error fault => throw (IO.userError fault.message)
    | .ok turn =>
      log service.options.logLevel turn.notices
      return { state with
        roster := state.roster.withHistory turn.history
        nextPurge := moment.instant + server.purgeInterval * microsPerSecond }
  else return state

/-- Writes a snapshot for a new version, and at regular intervals if they are set. -/
def exportWhenDue (service : Startup.Service) (state : State) : IO State := do
  let refresh := service.options.snapshot.refreshInterval
  let moment ← now
  let isTime := 0 < refresh && state.nextExport ≤ moment.instant
  if isTime || Export.isDue 0 state.exported state.roster.version then
    writeSnapshot service state.roster
    return { state with
      exported := state.roster.version
      nextExport := moment.instant + refresh * microsPerSecond }
  else return state

/-- The milliseconds between two looks at the lease file, a day at most. -/
def pause (service : Startup.Service) : Nat :=
  match service.options.server.pollInterval with
  | .finite _ units => min (Binary64.millionths units / 1000 + 1) 86400000
  | _ => 86400000

/-- Goes round for ever. -/
partial def serve (service : Startup.Service) (force : Bool) (state : State) :
    IO Unit := do
  let looked ← lookAndApply service force state
  let purged ← purgeWhenDue service looked
  let next ← exportWhenDue service purged
  IO.sleep (UInt32.ofNat (pause service))
  serve service false next

/-- Files with everything noted that stands on the way to a path. -/
def noteWay (files : StoredFiles) (path : String) : IO StoredFiles := do
  let way := FilePath.ofString path
  let mut noted := files
  for count in List.range (way.names.length + 1) do
    let reached : FilePath := { way with names := way.names.take count }
    let file ← storedFile (String.ofList reached.text)
    noted := noted.insert (StoredFiles.key reached.place) file
  return noted

/-- The files that the start looks at, found with the options of the configuration. -/
def filesFor (configPath : String) (level : Option String) : IO StoredFiles := do
  let files ← noteWay Index.empty configPath
  match Startup.loadOptions configPath (files.lookUp (.ofString configPath)) level with
  | .error _ => return files
  | .ok options =>
    noteWay (← noteWay files options.server.epochFile) options.server.historyFile

/-- The settings of the environment and the files that there are. -/
def surroundings : IO Startup.Surroundings := do
  let configPath := (← IO.getEnv "LEASEWATCH_CONFIG").getD Startup.defaultPath
  let level ← IO.getEnv "LEASEWATCH_LOG_LEVEL"
  let epoch ← IO.getEnv Startup.epochVariable
  return ⟨configPath, level, epoch, ← filesFor configPath level⟩

/-- Runs the service; the exit code tells whether it could be started.  A file that the start looks
at and cannot read stops it. -/
def run : IO UInt32 := do
  let found ← match ← surroundings.toBaseIO with
    | .ok found => pure found
    | .error problem =>
      IO.eprintln ("Startup failed: " ++ problem.toString)
      return 1
  let started := Startup.start found
  log (Startup.levelOf found) started.notices
  match started.outcome with
  | .error fault =>
    log (Startup.levelOf found) [.startFailed fault]
    return 1
  | .ok service =>
    let pool := service.reconciler.pool
    let server := service.options.server
    log service.options.logLevel
      [.poolSized pool.ranges.length pool.size?,
       .leaseFileWatched server.leaseFile server.pollInterval,
       Purge.startNotice server.retention (.whole server.purgeInterval)]
    serve service true
      ⟨Watcher.start server.leaseFile, Roster.initial service.history, 0, 0, 0⟩
    return 0

end Main

end LeaseRoster

def main : IO UInt32 := LeaseRoster.Main.run
