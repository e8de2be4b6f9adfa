import LeaseRoster.Roster.Export

/-!
# Disks

A disk has directories, files and symbolic links, each at a place: the names that lead to it from
the root.  A file may have several places.  Where a path leads is found name by name: links are
followed on the way, and two dots lead to the directory above the one that was reached.  A snapshot
is saved to a disk by the same steps as to files that are told by the texts of their paths.  Of a
step that the operating system refuses only the refusal is modelled, not always its number.
-/

namespace LeaseRoster

def Text.encode (text : List Char) : List UInt8 := text.flatMap String.utf8EncodeChar

namespace FilePath

/-- The paths that some names lead to one after the other. -/
def along (path : FilePath) : List (List Char) → List FilePath
  | [] => []
  | name :: rest =>
    let next : FilePath := { path with names := path.names ++ [name] }
    next :: next.along rest

/-- The path of the file beside the one of a path, which must have a name. -/
def beside (path : FilePath) : Except Fault FilePath :=
  match path.names.getLast? with
  | none => .error (.value .namelessPath)
  | some name => .ok { path with names := path.names.dropLast ++ [name ++ ".tmp".toList] }

end FilePath

/-- A place on a disk: the names that lead to it from the root. -/
abbrev Place := List (List Char)

/-- What stands at a place.  A file is told by its number, so that it may stand at several. -/
inductive DiskEntry
  | directory
  | file (number : Nat)
  | link (target : FilePath)
deriving DecidableEq

namespace DiskEntry

def number : DiskEntry → Nat
  | .file number => number
  | _ => 0

/-- What stands at a place.  The root is always a directory. -/
def find? (entries : Index Place DiskEntry) (place : Place) : Option DiskEntry :=
  if place = [] then some .directory else entries.find? place

end DiskEntry

/-- A disk, and the place on it that paths without a root start from.  Everything stands in a
directory. -/
structure Disk where
  working : Place
  entries : Index Place DiskEntry
  contents : Index Nat (List UInt8)
  inside : ∀ entry ∈ entries.entries,
    DiskEntry.find? entries entry.1.dropLast = some .directory

namespace Disk

/-! ## Ways -/

/-- The greatest number of links that are followed on one way. -/
def linkLimit : Nat := 40

/-- The place that a path starts from, seen from another one. -/
def startFrom (place : Place) (path : FilePath) : Place := if path.root.isEmpty then place else []

/-- Where some names lead from a place, and how many links may still be followed.  A link stands for
the names of its target.  At the end of the way there need not be anything. -/
def walkWith (look : Place → Option DiskEntry) (left : Nat)
    (follow : Place → List (List Char) → Except Fault (Place × Nat)) :
    Place → List (List Char) → Except Fault (Place × Nat)
  | place, [] => .ok (place, left)
  | place, name :: rest =>
    match look place with
    | none => .error .missingFile
    | some .directory =>
      if name = FilePath.back then walkWith look left follow place.dropLast rest
      else
        match look (place ++ [name]) with
        | some (.link target) => follow (startFrom place target) (target.names ++ rest)
        | _ => walkWith look left follow (place ++ [name]) rest
    | some _ => .error .notDirectory

/-- Where some names lead from a place if so many links may be followed at most. -/
def walk (look : Place → Option DiskEntry) :
    Nat → Place → List (List Char) → Except Fault (Place × Nat)
  | 0 => walkWith look 0 fun _ _ => .error .notDirectory
  | left + 1 => walkWith look (left + 1) (walk look left)

def node? (disk : Disk) (place : Place) : Option DiskEntry := DiskEntry.find? disk.entries place

/-- The place that a path leads to on a disk that may look different. -/
def reachIn (disk : Disk) (look : Place → Option DiskEntry) (path : FilePath) :
    Except Fault Place :=
  (walk look linkLimit (startFrom disk.working path) path.names).map Prod.fst

def reach (disk : Disk) (path : FilePath) : Except Fault Place := disk.reachIn disk.node? path

/-- The place that a path leads to if nothing stands at another place. -/
def reachWithout (disk : Disk) (place : Place) (path : FilePath) : Except Fault Place :=
  disk.reachIn (fun other => if other = place then none else disk.node? other) path

/-- The place that a path names: where a link leads that stands there does not matter. -/
def placeOf (disk : Disk) (path : FilePath) : Except Fault Place := do
  let directory ← disk.reach path.parent
  match disk.node? directory, path.names.getLast? with
  | none, _ => throw .missingFile
  | some .directory, some name =>
    if name = FilePath.back then throw .alreadyExists else return directory ++ [name]
  | some .directory, none => throw .alreadyExists
  | some _, _ => throw .notDirectory

def isDirectory (disk : Disk) (path : FilePath) : Bool :=
  match disk.reach path with
  | .ok place => disk.node? place == some .directory
  | .error _ => false

/-! ## What is found -/

/-- What is found at a place. -/
inductive Held
  | directory
  | file (content : List UInt8)
  | link (target : FilePath)
deriving DecidableEq

def content (disk : Disk) (number : Nat) : List UInt8 := (disk.contents.find? number).getD []

def held? (disk : Disk) (place : Place) : Option Held :=
  (disk.node? place).map fun
    | .directory => .directory
    | .file number => .file (disk.content number)
    | .link target => .link target

/-- What a reader of a path finds. -/
def seen? (disk : Disk) (path : FilePath) : Option Held :=
  match disk.reach path with
  | .ok place => disk.held? place
  | .error _ => none

/-! ## Changes -/

theorem inside_insert (disk : Disk) {place : Place}
    (within : disk.node? place.dropLast = some .directory)
    (vacant : disk.node? place ≠ some .directory) (entry : DiskEntry) :
    ∀ other ∈ (disk.entries.insert place entry).entries,
      DiskEntry.find? (disk.entries.insert place entry) other.1.dropLast = some .directory := by
  intro other member
  have still (above : Place) (directory : disk.node? above = some .directory) :
      DiskEntry.find? (disk.entries.insert place entry) above = some .directory := by
    have apart : ¬place = above := by
      rintro rfl
      exact vacant directory
    rw [DiskEntry.find?, Index.find?_insert, if_neg apart]
    exact directory
  rcases Index.mem_insertIn member with rfl | earlier
  · exact still _ within
  · exact still _ (disk.inside other earlier)

theorem inside_erase (disk : Disk) {place : Place}
    (standing : disk.node? place ≠ some .directory) :
    ∀ other ∈ (disk.entries.erase place).entries,
      DiskEntry.find? (disk.entries.erase place) other.1.dropLast = some .directory := by
  intro other member
  have directory := disk.inside other (List.mem_filter.mp member).1
  have apart : ¬place = other.1.dropLast := by
    intro same
    exact standing (same ▸ directory)
  rw [DiskEntry.find?, Index.find?_erase, if_neg apart]
  exact directory

/-- Puts something at a place inside a directory, where there is none. -/
def put (disk : Disk) (place : Place) (entry : DiskEntry) : Except Fault Disk :=
  if within : disk.node? place.dropLast = some .directory then
    if vacant : disk.node? place ≠ some .directory then
      .ok { disk with
        entries := disk.entries.insert place entry
        inside := disk.inside_insert within vacant entry }
    else .error .isDirectory
  else .error .notDirectory

/-- Takes away what stands at a place, unless it is a directory. -/
def remove (disk : Disk) (place : Place) : Except Fault Disk :=
  if standing : disk.node? place ≠ some .directory then
    .ok { disk with
      entries := disk.entries.erase place
      inside := disk.inside_erase standing }
  else .error .isDirectory

/-- The disk with the content of a file changed. -/
def fill (disk : Disk) (number : Nat) (content : List UInt8) : Disk :=
  { disk with contents := disk.contents.insert number content }

def freshNumber (disk : Disk) : Nat :=
  (disk.entries.entries.map fun entry => entry.2.number).foldr (· + ·) 0 + 1

/-- Changes the content of the file that a path leads to. -/
def rewrite (disk : Disk) (path : FilePath) (change : List UInt8 → List UInt8) :
    Except Fault Disk := do
  match disk.node? (← disk.reach path) with
  | some (.file number) => return disk.fill number (change (disk.content number))
  | some .directory => throw .isDirectory
  | _ => throw .missingFile

/-! ## Saving -/

/-- Creates a directory where nothing stands. -/
def makeOne (disk : Disk) (path : FilePath) : Except Fault Disk := do
  let place ← disk.placeOf path
  if disk.node? place = none then disk.put place .directory else throw .alreadyExists

/-- Creates a directory unless it exists. -/
def makeDirectory (disk : Disk) (path : FilePath) : Except Fault Disk :=
  match disk.makeOne path with
  | .error .alreadyExists => if disk.isDirectory path then .ok disk else .error .alreadyExists
  | outcome => outcome

/-- Starts an empty file where a path leads to, in place of one that may be there. -/
def startFile (disk : Disk) (path : FilePath) : Except Fault Disk := do
  let place ← disk.reach path
  match disk.node? place with
  | none => return (← disk.put place (.file disk.freshNumber)).fill disk.freshNumber []
  | some (.file number) => return disk.fill number []
  | some .directory => throw .isDirectory
  | some (.link _) => throw .missingFile

def append (disk : Disk) (path : FilePath) (text : List Char) : Except Fault Disk :=
  disk.rewrite path (· ++ Text.encode text)

/-- Puts a file or a link in the place of another one.  Nothing happens to a file that stands at
both places. -/
def replace (disk : Disk) (source target : FilePath) : Except Fault Disk := do
  let old ← disk.placeOf source
  let new ← disk.placeOf target
  match disk.node? old with
  | none => throw .missingFile
  | some .directory => throw .isDirectory
  | some entry =>
    if disk.node? new = some entry then return disk
    else (← disk.put new entry).remove old

instance : SavePath FilePath where
  above path := FilePath.along ⟨path.root, []⟩ path.names.dropLast
  temporary := FilePath.beside

instance : FileSystem Disk FilePath where
  makeDirectory := Disk.makeDirectory
  startFile := Disk.startFile
  append := Disk.append
  replace := Disk.replace

end Disk

end LeaseRoster
