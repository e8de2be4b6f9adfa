import LeaseRoster.Document.Value
import LeaseRoster.Files
import LeaseRoster.Options.Listing
import LeaseRoster.Reconciler

/-!
# Starting the service

The service starts from its configuration file, from the number of the present server
run and from the history.  Whatever is wrong with them stops the start.  Settings of the
environment count more than the file: the log level, and the number of the run.
-/

namespace LeaseRoster

namespace Startup

/-! ## The configuration file -/

/-- The path of the configuration file unless another one is set. -/
def defaultPath : String := "config/options.yaml"

/-- The mapping that the text of a configuration file denotes.  An empty file sets
nothing. -/
def optionsDocument (path : String) (text : List Char) : Except Fault Datum :=
  match Document.read text with
  | .error (.document fault) => .error (.configuration (.notDocument path fault))
  | .error fault => .error fault
  | .ok .null => .ok (.mapping [])
  | .ok datum =>
    if datum.isMapping then .ok datum else .error (.configuration (.notMapping path))

/-- A configuration with the log level that the environment sets, if any. -/
def withLevel (level : Option String) (configuration : Datum) : Datum :=
  match level with
  | none => configuration
  | some name =>
    if name.isEmpty then configuration
    else Datum.withEntry "log_level" (.text name) configuration

/-- The options that the file at a path sets, together with the environment.  What is
found at the path may be a fault of the way to it. -/
def loadOptions (path : String) (found : Except Fault StoredFile)
    (level : Option String) : Except Fault Options := do
  let file ←
    match found with
    | .error .notDirectory => .ok .missing
    | other => other
  if !file.exists? then throw (.configuration (.missingFile path))
  let text ← file.text
  let configuration ← optionsDocument path text
  match (Options.read (withLevel level configuration)).result with
  | .error (.invalid faults) => throw (.configuration (.refused path faults))
  | .error fault => throw fault
  | .ok options => return options

def optionsNotices (options : Options) : List Notice :=
  [.poolsConfigured options.pools.length,
   .reservationsConfigured options.reservations.length,
   .friendlyNamesConfigured options.friendlyNames.length,
   .retentionConfigured options.server.retention]

/-! ## The number of the server run -/

/-- The name under which the environment sets the number of the server run. -/
def epochVariable : String := "LEASEWATCH_START_EPOCH"

def epochOf (source : String) (raw : Datum) : Except Fault Int :=
  match Text.readInt (Text.strip raw.plain) with
  | .error _ => .error (.configuration (.malformedEpoch source raw.shownText))
  | .ok epoch =>
    if epoch < 0 then .error (.configuration (.negativeEpoch source epoch))
    else .ok epoch

/-- The fault of a file with the number of the server run that cannot be read. -/
def epochUnread (path : String) (fault : Fault) : Fault :=
  match refusal? fault with
  | some reason =>
    let shown := String.ofList (Text.quoted (FilePath.ofString path).text)
    .configuration (.unreadableEpoch path (reason ++ ": " ++ shown))
  | none => fault

/-- The number of the server run: the one that is given, or else the one in a file. -/
def readEpoch (path : String) (found : Except Fault StoredFile) (given : Option Datum) :
    Except Fault Int :=
  match given with
  | some raw => epochOf epochVariable raw
  | none =>
    match found >>= StoredFile.text with
    | .ok text => epochOf path (.text (String.ofList text))
    | .error fault => .error (epochUnread path fault)

/-! ## The history -/

/-- The greatest number of bytes in the path of a database, with room left for the
ending of its journal. -/
def databasePathLimit : Nat := 504

/-- The greatest number of bytes in the name of a database, with room left likewise. -/
def databaseNameLimit : Nat := 247

def isDatabasePlace (place : FilePath) : Bool :=
  Text.nameWidth place.text ≤ databasePathLimit &&
    Text.nameWidth (place.names.getLast?.getD []) ≤ databaseNameLimit

/-- The history in a database at a place, and the files with it. -/
def openAt (files : StoredFiles) (path : String) (place : FilePath) :
    Except Fault (History × StoredFiles) :=
  let fault (cause : HistoryCause) : Fault := .history (.opening path) cause
  let created :=
    (History.create path, files.insert (StoredFiles.key place) (.file []))
  match files.noted place with
  | .directory => .error (fault .cannotOpen)
  | .missing => if isDatabasePlace place then .ok created else .error (fault .cannotOpen)
  | .file bytes =>
    if bytes.length ≤ 1 then .ok created else .error (fault .notDatabase)

/-- The history in a database at a path, and the files with it.  The directory of the
database is created when it is missing.  There are paths for databases that leave no
file. -/
def openHistory (files : StoredFiles) (path : String) :
    Except Fault (History × StoredFiles) := do
  if path == History.memoryPath then return (History.create path, files)
  let parts := FilePath.ofString path
  let made ← files.makeDirectory parts.parent
  StoredFiles.checkText path.toList
  if path.isEmpty then return (History.create path, made)
  openAt made path parts.place

/-! ## The service -/

/-- What the environment sets, and the files that there are. -/
structure Surroundings where
  configPath : String
  level : Option String
  epoch : Option String
  files : StoredFiles

/-- A service that has been started, and the files that are there now. -/
structure Service where
  options : Options
  reconciler : Reconciler
  history : History
  files : StoredFiles

def options (surroundings : Surroundings) : Except Fault Options :=
  loadOptions surroundings.configPath
    (surroundings.files.lookUp (.ofString surroundings.configPath)) surroundings.level

/-- The number of the server run that the surroundings give. -/
def epoch (surroundings : Surroundings) (options : Options) : Except Fault Int :=
  readEpoch options.server.epochFile
    (surroundings.files.lookUp (.ofString options.server.epochFile))
    (surroundings.epoch.map Datum.text)

/-- An operation that leaves notices and may be stopped. -/
structure Attempt (α : Type) where
  notices : List Notice
  outcome : Except Fault α

def Attempt.after {α : Type} (attempt : Attempt α) (notices : List Notice) : Attempt α :=
  { attempt with notices := notices ++ attempt.notices }

/-- An attempt followed by another one, if it succeeds. -/
def Attempt.andThen {α β : Type} (attempt : Attempt α) (next : α → Attempt β) :
    Attempt β :=
  match attempt.outcome with
  | .ok value => (next value).after attempt.notices
  | .error fault => ⟨attempt.notices, .error fault⟩

def Attempt.noting {α : Type} (outcome : Except Fault α) (notices : α → List Notice) :
    Attempt α :=
  match outcome with
  | .ok value => ⟨notices value, .ok value⟩
  | .error fault => ⟨[], .error fault⟩

/-- Builds the service of some options: the registry, then the number of the run, then
the history, and at last the reconciler. -/
def build (surroundings : Surroundings) (options : Options) : Attempt Service :=
  let registry := options.registry
  ((Attempt.noting (epoch surroundings options) fun number => [.epochRead number]).andThen
    fun number =>
      (Attempt.noting (openHistory surroundings.files options.server.historyFile)
        fun opened => [.historyOpened opened.1.path]).andThen
      fun (history, files) =>
        Attempt.noting
          ((Reconciler.create options.addressPool registry (.whole number)
              options.nameServer.domain (.whole 1)).map
            fun reconciler => ⟨options, reconciler, history, files⟩)
          fun _ => []).after
    (Registry.buildNotices options.reservations)

def start (surroundings : Surroundings) : Attempt Service :=
  (Attempt.noting (options surroundings) optionsNotices).andThen (build surroundings)

/-! ## The whole run -/

/-- Whether a fault is one that the service reports when it cannot start. -/
def isReported : Fault → Bool
  | .configuration _ => true
  | .history _ _ => true
  | _ => false

/-- The end of a run: the exit code, the level of the log, and the notices. -/
structure Ending where
  exitCode : Nat
  level : LogLevel
  notices : List Notice

/-- The level of the log: that of the options once they are loaded. -/
def levelOf (surroundings : Surroundings) : LogLevel :=
  match options surroundings with
  | .ok loaded => loaded.logLevel
  | .error _ => .info

/-- The notices of a service that runs until a signal arrives, if one does, while the
clock stands still. -/
def runNotices (service : Service) (signal : Option Nat) : List Notice :=
  let pool := service.reconciler.pool
  .poolSized pool.ranges.length pool.size? ::
    (signal.map Notice.signalReceived).toList ++ [.stopped 0]

def run (surroundings : Surroundings) (signal : Option Nat) : Except Fault Ending :=
  let started := start surroundings
  let level := levelOf surroundings
  match started.outcome with
  | .ok service => .ok ⟨0, level, started.notices ++ runNotices service signal⟩
  | .error fault =>
    if isReported fault then
      .ok ⟨1, level, started.notices ++ [.startFailed fault]⟩
    else .error fault

end Startup

end LeaseRoster
