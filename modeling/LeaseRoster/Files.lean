import LeaseRoster.Fault
import LeaseRoster.Index
import LeaseRoster.Text.Blank
import LeaseRoster.Text.Half

/-!
# Files

A tree of files, by path.  Only what the roster does with files is modelled:
creating the directory of a file, starting an empty file, adding to it, and
putting it in the place of another one.  The files that a service finds when it starts
are looked up name by name, as the operating system does it.
-/

namespace LeaseRoster

/-- What stands at a path. -/
inductive FileNode
  | directory
  | file (content : List Char)
deriving DecidableEq

/-- What stands at every path in use. -/
abbrev FileTree := Index String FileNode

namespace FileTree

/-- The path up to its last slash, empty for a name without one. -/
def parent (path : List Char) : List Char :=
  ((path.reverse.dropWhile (· != '/')).drop 1).reverse

/-- The directories above a path, the outermost one first. -/
def ancestors : Nat → List Char → List (List Char)
  | 0, _ => []
  | depth + 1, path =>
    let above := parent path
    if above.isEmpty then [] else ancestors depth above ++ [above]

/-- The paths of the directories above a path, the outermost one first. -/
def directoriesAbove (path : String) : List String :=
  (ancestors path.length path.toList).map String.ofList

/-- Creates a directory unless it exists. -/
def makeDirectory (tree : FileTree) (path : String) : Except Fault FileTree :=
  match tree.find? path with
  | none => .ok (tree.insert path .directory)
  | some .directory => .ok tree
  | some (.file _) => .error .alreadyExists

/-- Starts an empty file, in place of one that may be there. -/
def startFile (tree : FileTree) (path : String) : Except Fault FileTree :=
  match tree.find? path with
  | some .directory => .error .isDirectory
  | _ => .ok (tree.insert path (.file []))

def append (tree : FileTree) (path : String) (text : List Char) :
    Except Fault FileTree :=
  match tree.find? path with
  | some (.file content) => .ok (tree.insert path (.file (content ++ text)))
  | some .directory => .error .isDirectory
  | none => .error .missingFile

def replace (tree : FileTree) (source target : String) : Except Fault FileTree :=
  match tree.find? source, tree.find? target with
  | some node, some .directory =>
    if node = .directory then .ok tree else .error .isDirectory
  | some node, _ => .ok ((tree.insert target node).erase source)
  | none, _ => .error .missingFile

def read? (tree : FileTree) (path : String) : Option (List Char) :=
  match tree.find? path with
  | some (.file content) => some content
  | _ => none

def namesBelow (tree : FileTree) (directory : String) : List String :=
  tree.entries.filterMap fun entry =>
    let path := entry.1.toList
    if parent path = directory.toList then
      some (String.ofList (path.drop (directory.length + 1)))
    else none

end FileTree

/-! ## Paths -/

/-- A path: the slashes that it starts with, and the names on its way. -/
structure FilePath where
  root : List Char
  names : List (List Char)
deriving DecidableEq

namespace FilePath

/-- The name that leads one step back. -/
def back : List Char := ['.', '.']

/-- The slashes that count at the start of a path: two of them, or one for all other
numbers. -/
def rootOf : List Char → List Char
  | '/' :: '/' :: '/' :: _ => ['/']
  | '/' :: '/' :: _ => ['/', '/']
  | '/' :: _ => ['/']
  | _ => []

/-- The path that a text spells; names that lead nowhere are left out. -/
def ofText (text : List Char) : FilePath :=
  ⟨rootOf text,
    (Text.pieces (· == '/') text).filter fun name => !name.isEmpty && name != ['.']⟩

def ofString (text : String) : FilePath := ofText text.toList

def text (path : FilePath) : List Char :=
  if path.root.isEmpty && path.names.isEmpty then ['.']
  else path.root ++ List.intercalate ['/'] path.names

def parent (path : FilePath) : FilePath := { path with names := path.names.dropLast }

def step (path : FilePath) (name : List Char) : FilePath :=
  if name == back then path.parent else { path with names := path.names ++ [name] }

def start (path : FilePath) : FilePath := ⟨path.root.take 1, []⟩

def place (path : FilePath) : FilePath := path.names.foldl step path.start

end FilePath

/-! ## Files that are only read -/

/-- What stands at the path of a file that is read as a whole. -/
inductive StoredFile
  | missing
  | directory
  | file (bytes : List UInt8)
deriving DecidableEq

namespace StoredFile

def exists? : StoredFile → Bool
  | .missing => false
  | _ => true

def bytes : StoredFile → Except Fault (List UInt8)
  | .missing => .error .missingFile
  | .directory => .error .isDirectory
  | .file bytes => .ok bytes

/-- The text of a file, with its line breaks unified. -/
def text (file : StoredFile) : Except Fault (List Char) := do
  match Text.decodeStrict (← file.bytes) with
  | some characters => return Text.unifyNewlines characters
  | none => throw .undecodable

end StoredFile

/-- How the operating system words its refusal to read a file. -/
def refusal? : Fault → Option String
  | .missingFile => some "[Errno 2] No such file or directory"
  | .notDirectory => some "[Errno 20] Not a directory"
  | .isDirectory => some "[Errno 21] Is a directory"
  | .nameTooLong => some "[Errno 36] File name too long"
  | _ => none

/-- The files that a service finds when it starts, by the places where they stand. -/
abbrev StoredFiles := Index String StoredFile

namespace StoredFiles

def nameLimit : Nat := 255

def pathLimit : Nat := 4095

def key (place : FilePath) : String := String.ofList place.text

/-- What stands at a place; the place that a path starts from is always a directory. -/
def noted (files : StoredFiles) (place : FilePath) : StoredFile :=
  if place.names.isEmpty then .directory else (files.find? (key place)).getD .missing

/-- The files with something noted at the place that a path leads to. -/
def note (files : StoredFiles) (path : String) (file : StoredFile) : StoredFiles :=
  files.insert (key (FilePath.ofString path).place) file

/-- Whether a text can be handed to the operating system as a path. -/
def checkText (text : List Char) : Except Fault Unit :=
  if !Text.isNameText text then .error .unencodable
  else if text.contains (Char.ofNat 0) then .error (.value .nullCharacter)
  else .ok ()

/-- The place that some names lead to from another one.  Every place on the way must
be a directory. -/
def walk (files : StoredFiles) (place : FilePath) :
    List (List Char) → Except Fault FilePath
  | [] => .ok place
  | name :: rest =>
    match files.noted place with
    | .missing => .error .missingFile
    | .file _ => .error .notDirectory
    | .directory =>
      if nameLimit < Text.nameWidth name then .error .nameTooLong
      else files.walk (place.step name) rest

def reach (files : StoredFiles) (path : FilePath) : Except Fault FilePath := do
  checkText path.text
  if pathLimit < Text.nameWidth path.text then throw .nameTooLong
  files.walk path.start path.names

/-- What stands at the place that a path leads to, if anything does. -/
def lookUp (files : StoredFiles) (path : FilePath) : Except Fault StoredFile :=
  match files.reach path with
  | .ok place => .ok (files.noted place)
  | .error .missingFile => .ok .missing
  | .error fault => .error fault

def has (files : StoredFiles) (path : String) : Bool :=
  match files.lookUp (FilePath.ofString path) with
  | .ok file => file.exists?
  | .error _ => false

def makeOne (files : StoredFiles) (path : FilePath) : Except Fault StoredFiles := do
  let place ← files.reach path
  if (files.noted place).exists? then throw .alreadyExists
  return files.insert (key place) .directory

/-- What comes of the creation of a directory that may exist already. -/
def orPresent (files : StoredFiles) (path : FilePath) (fault : Fault) :
    Except Fault StoredFiles :=
  match files.lookUp path with
  | .ok .directory => .ok files
  | .error .nameTooLong => .error .nameTooLong
  | _ => .error fault

/-- Creates a directory and those above it that are missing, given how many there are
at most. -/
def makeAll (files : StoredFiles) (path : FilePath) :
    Nat → Except Fault StoredFiles
  | 0 => .error .missingFile
  | above + 1 =>
    match files.makeOne path with
    | .ok made => .ok made
    | .error .missingFile => do
      let made ← files.makeAll path.parent above
      match made.makeOne path with
      | .ok all => .ok all
      | .error .missingFile => .error .missingFile
      | .error fault => made.orPresent path fault
    | .error fault => files.orPresent path fault

/-- Creates a directory and those above it, unless they exist. -/
def makeDirectory (files : StoredFiles) (path : FilePath) : Except Fault StoredFiles :=
  files.makeAll path (path.names.length + 1)

end StoredFiles

end LeaseRoster
