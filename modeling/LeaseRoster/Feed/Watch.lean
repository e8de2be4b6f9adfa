import LeaseRoster.Feed.Leases

/-!
# Watching the lease file

The watcher compares the time of the last change and the size of the lease file
with those it remembers.  When they differ, or when it is told to, it reads the
file and hands on all its leases.  What it remembers changes only with a reading
that succeeds, so a failed one is tried again.
-/

namespace LeaseRoster

/-- The time of the last change of a file, and its size. -/
structure FileStamp where
  changed : Int
  size : Nat
deriving DecidableEq

/-- What stands at the path of the lease file. -/
inductive LeaseFile
  | missing
  | directory (changed : Int) (size : Nat)
  | file (changed : Int) (bytes : List UInt8)

namespace LeaseFile

def stamp? : LeaseFile → Option FileStamp
  | .missing => none
  | .directory changed size => some ⟨changed, size⟩
  | .file changed bytes => some ⟨changed, bytes.length⟩

def exists? : LeaseFile → Bool
  | .missing => false
  | _ => true

def leases : LeaseFile → Except Fault Feed.Outcome
  | .missing => .error .missingFile
  | .directory _ _ => .error .isDirectory
  | .file _ bytes => Feed.leasesOfBytes bytes

end LeaseFile

namespace Feed

/-- The leases at a path, given what stands there when its existence is asked for and
when it is read.  A file that does not exist has no leases. -/
def readLeases (path : String) (atTest atReading : LeaseFile) :
    Except Fault Outcome :=
  if atTest.exists? then atReading.leases
  else .ok ⟨[], [.leaseFileMissing path]⟩

end Feed

/-- The watcher: the path of the lease file, the stamp it remembers, and the number of
changes so far. -/
structure Watcher where
  path : String
  remembered : Option FileStamp
  changes : Nat

namespace Watcher

/-- A watcher that has not looked yet. -/
def start (path : String) : Watcher := ⟨path, none, 0⟩

/-- The outcome of a look at the file: the watcher, the leases to hand on, if any, the
notices, and the fault that stopped it. -/
structure Look where
  watcher : Watcher
  submitted : Option (List Lease)
  notices : List Notice
  fault : Option Fault

/-- What becomes of the watcher when the file has been read. -/
def accept (watcher : Watcher) (stamp : Option FileStamp) (outcome : Feed.Outcome) :
    Look :=
  let notice :=
    Notice.leaseFileChanged watcher.changes watcher.path outcome.leases.length
  ⟨⟨watcher.path, stamp, watcher.changes + 1⟩, some outcome.leases,
    outcome.notices ++ [notice], none⟩

/-- A look at the file, given what stands there at each of its steps: when the stamp
is taken, when its existence is asked for, and when it is read. -/
def lookAt (watcher : Watcher) (force : Bool) (atStamp atTest atReading : LeaseFile) :
    Look :=
  if !force && atStamp.stamp? == watcher.remembered then ⟨watcher, none, [], none⟩
  else
    match Feed.readLeases watcher.path atTest atReading with
    | .ok outcome => watcher.accept atStamp.stamp? outcome
    | .error fault =>
      if fault.isSystem then
        ⟨watcher, none, [.leaseFileUnreadable watcher.path fault], none⟩
      else ⟨watcher, none, [], some fault⟩

/-- A look at a file that stays as it is. -/
def look (watcher : Watcher) (force : Bool) (file : LeaseFile) : Look :=
  watcher.lookAt force file file file

end Watcher

end LeaseRoster
