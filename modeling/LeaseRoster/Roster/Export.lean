import LeaseRoster.Files
import LeaseRoster.Roster.Basic

/-!
# Writing snapshots

A snapshot is written to a file of its own beside the target and then put in the
place of the target, so that a reader finds either the old snapshot or the whole
new one.  The exporter writes one for every new version of the list and, if it is
asked to, at regular intervals.
-/

namespace LeaseRoster

/-- Paths that a file can be saved to: the directories above a path, the outermost one first, and the
path of the file in which a text for it is prepared. -/
class SavePath (π : Type) where
  above : π → List π
  temporary : π → Except Fault π

/-- Files and directories that stand at paths. -/
class FileSystem (σ : Type) (π : outParam Type) where
  /-- Creates a directory unless it exists. -/
  makeDirectory : σ → π → Except Fault σ
  /-- Starts an empty file, in place of one that may be there. -/
  startFile : σ → π → Except Fault σ
  /-- Adds text to a file. -/
  append : σ → π → List Char → Except Fault σ
  /-- Puts a file in the place of another one. -/
  replace : σ → π → π → Except Fault σ

namespace Export

variable {σ π : Type} [SavePath π] [FileSystem σ π]

/-- A step of saving a snapshot. -/
inductive SaveStep (π : Type)
  | makeDirectory (directory : π)
  | start
  | write (text : Except Fault (List Char))
  | replace

/-- The steps of saving a text, or failing to make it once the file is started. -/
def saveSteps (path : π) (text : Except Fault (List Char)) : List (SaveStep π) :=
  (SavePath.above path).map .makeDirectory ++ [.start, .write text, .replace]

def perform (path : π) (tree : σ) : SaveStep π → Except Fault σ
  | .makeDirectory directory => FileSystem.makeDirectory tree directory
  | .start => do
    FileSystem.startFile tree (← SavePath.temporary path)
  | .write text => do
    let characters ← text
    FileSystem.append tree (← SavePath.temporary path) characters
  | .replace => do
    FileSystem.replace tree (← SavePath.temporary path) path

/-- The files after an operation, and the fault that stopped it, if any. -/
structure Saved (σ : Type) where
  tree : σ
  fault : Option Fault

/-- Does some steps one after the other, up to the first that fails. -/
def performAll (path : π) (tree : σ) : List (SaveStep π) → Saved σ
  | [] => ⟨tree, none⟩
  | step :: rest =>
    match perform path tree step with
    | .ok next => performAll path next rest
    | .error fault => ⟨tree, some fault⟩

/-- The text of a snapshot, which must have a UTF-8 form; the limit of `Text.isEncodable` applies. -/
def snapshotText (snapshot : Snapshot) (poolSize : Option Nat) :
    Except Fault (List Char) := do
  let text := (← snapshot.toJson poolSize).fileText
  if Text.isEncodable text then return text else throw .unencodable

def save (path : π) (poolSize : Option Nat) (snapshot : Snapshot) (tree : σ) : Saved σ :=
  performAll path tree (saveSteps path (snapshotText snapshot poolSize))

/-! ## Files by the texts of their paths -/

/-- The path of the file in which a snapshot is prepared. -/
def temporaryPath (path : String) : String := path ++ ".tmp"

instance : SavePath String where
  above := FileTree.directoriesAbove
  temporary path := .ok (temporaryPath path)

instance : FileSystem FileTree String where
  makeDirectory := FileTree.makeDirectory
  startFile := FileTree.startFile
  append := FileTree.append
  replace := FileTree.replace

/-! ## Turns of the exporter -/

/-- The notices of a snapshot that was saved, or could not be. -/
def saveNotices (path : String) (snapshot : Snapshot) (fault : Option Fault) : List Notice :=
  match fault with
  | none => [.snapshotSaved snapshot.current.length snapshot.past.length path]
  | some _ => []

/-- Whether a turn of the exporter writes a snapshot: always at regular intervals, and
otherwise for a version other than the one remembered. -/
def isDue (refresh : Int) (remembered version : Nat) : Bool :=
  0 < refresh || version != remembered

/-- The outcome of a turn: the version to remember, the files, the notices and the
fault that stopped the exporter. -/
structure Turn where
  remembered : Nat
  tree : FileTree
  notices : List Notice
  fault : Option Fault

/-- Saves a snapshot on behalf of the exporter.  A failure of the file system is
reported, and the exporter goes on. -/
def saveTurn (path : String) (poolSize : Option Nat) (version : Nat)
    (found : History.Found Snapshot) (tree : FileTree) : Turn :=
  let saved := save path poolSize found.value tree
  let notices := found.notices ++ saveNotices path found.value saved.fault
  match saved.fault with
  | none => ⟨version, saved.tree, notices, none⟩
  | some fault =>
    if fault.isSystem then
      ⟨version, saved.tree, notices ++ [.snapshotNotWritten path fault], none⟩
    else ⟨version, saved.tree, notices, some fault⟩

def turn (reconciler : Reconciler) (now : Moment) (path : String)
    (poolSize : Option Nat) (refresh : Int) (remembered : Nat) (roster : Roster)
    (tree : FileTree) : Turn :=
  if isDue refresh remembered roster.version then
    saveTurn path poolSize roster.version (roster.snapshot reconciler now) tree
  else ⟨remembered, tree, [], none⟩

end Export

end LeaseRoster
