import LeaseRoster.Fault

/-!
# Tags

The tag of a node says what kind of value it is.  The kinds that every document knows
share the start of their names; other names are kept as they are.
-/

namespace LeaseRoster

namespace Document

/-- The kind of a value. -/
inductive Tag
  | null
  | flag
  | integer
  | number
  | text
  | bytes
  | moment
  | list
  | mapping
  | set
  | orderedMapping
  | pairs
  | merge
  | value
  | other (name : String)
deriving DecidableEq

namespace Tag

/-- The start of the names that every document knows. -/
def coreStart : String := "tag:yaml.org,2002:"

/-- The short names of the kinds that every document knows. -/
def shortNames : List (String × Tag) :=
  [("null", .null), ("bool", .flag), ("int", .integer), ("float", .number),
   ("str", .text), ("binary", .bytes), ("timestamp", .moment), ("seq", .list),
   ("map", .mapping), ("set", .set), ("omap", .orderedMapping), ("pairs", .pairs),
   ("merge", .merge), ("value", .value)]

def ofName (name : String) : Tag :=
  match shortNames.find? fun entry => coreStart ++ entry.1 == name with
  | some entry => entry.2
  | none => .other name

/-- The tag that stands for the kind that the content has anyway. -/
def openName : String := "!"

def isCollection : Tag → Bool
  | .list => true
  | .mapping => true
  | .set => true
  | .orderedMapping => true
  | .pairs => true
  | _ => false

/-- The meanings of the handles that every document knows. -/
def knownHandles : List (String × String) := [("!", "!"), ("!!", coreStart)]

end Tag

end Document

end LeaseRoster
