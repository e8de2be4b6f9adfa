import LeaseRoster.Datum.Shown
import LeaseRoster.Fault

/-!
# Values of configuration documents

The parts of a value that a document holds.  A collection that is inside itself can be
opened again and again: every part of it is a value of its own.
-/

namespace LeaseRoster

namespace Datum

/-! ## Knots -/

mutual

/-- A value with another one in place of a label. -/
def withLabel (label : Nat) (whole : Datum) : Datum → Datum
  | .list items => .list (itemsWithLabel label whole items)
  | .pair first second => .pair (withLabel label whole first) (withLabel label whole second)
  | .mapping entries => .mapping (entriesWithLabel label whole entries)
  | .knot other body =>
    if other == label then .knot other body else .knot other (withLabel label whole body)
  | .recurring other ofList => if other == label then whole else .recurring other ofList
  | other => other

/-- The values of a list, each with another one in place of a label. -/
def itemsWithLabel (label : Nat) (whole : Datum) : List Datum → List Datum
  | [] => []
  | item :: rest => withLabel label whole item :: itemsWithLabel label whole rest

/-- The entries of a mapping, each with a value in place of a label. -/
def entriesWithLabel (label : Nat) (whole : Datum) :
    List (Datum × Datum) → List (Datum × Datum)
  | [] => []
  | entry :: rest =>
    entryWithLabel label whole entry :: entriesWithLabel label whole rest

/-- An entry of a mapping with a value in place of a label. -/
def entryWithLabel (label : Nat) (whole : Datum) : Datum × Datum → Datum × Datum
  | (key, value) => (key, withLabel label whole value)

end

/-- A value whose outermost collection is at hand: a knot is opened, and inside it the
whole of it stands in place of its label. -/
def untied : Datum → Datum
  | .knot label body => withLabel label (.knot label body) body
  | other => other

/-! ## Taking values apart -/

/-- Whether a value counts as something: not null, false, zero or empty. -/
def isTruthy : Datum → Bool
  | .null => false
  | .flag value => value
  | .whole value => value != 0
  | .real value => !value.isZero
  | .text value => !value.isEmpty
  | .bytes value => !value.isEmpty
  | .duration value => value.micros != 0
  | .list items => !items.isEmpty
  | .set items => !items.isEmpty
  | .mapping entries => !entries.isEmpty
  | .knot _ body => isTruthy body
  | _ => true

def isText (name : String) : Datum → Bool
  | .text value => value == name
  | _ => false

def isMapping : Datum → Bool
  | .mapping _ => true
  | .knot _ body => isMapping body
  | _ => false

/-- The value under a text key, if a value is a mapping that has it. -/
def get? (datum : Datum) (name : String) : Option Datum :=
  match datum.untied with
  | .mapping entries =>
    (entries.find? fun entry => entry.1.isText name).map Prod.snd
  | _ => none

/-- The value under a text key, null where there is none. -/
def get (datum : Datum) (name : String) : Datum := (datum.get? name).getD .null

/-- A mapping's entries with the value under a text key replaced, or added at the
end. -/
def setEntry (name : String) (value : Datum) :
    List (Datum × Datum) → List (Datum × Datum)
  | [] => [(.text name, value)]
  | entry :: rest =>
    if entry.1.isText name then (entry.1, value) :: rest
    else entry :: setEntry name value rest

/-- A mapping with the value under a text key replaced, or added at the end. -/
def withEntry (name : String) (value : Datum) : Datum → Datum
  | .mapping entries => .mapping (setEntry name value entries)
  | .knot label body => .knot label (withEntry name value body)
  | other => other

/-- The integer that a value is, if it is one: truth values count as one and zero. -/
def integer? : Datum → Option Int
  | .flag value => some (if value then 1 else 0)
  | .whole value => some value
  | .real value => value.toInt?
  | _ => none

/-- The instant that a value stands for, if it is a moment that tells its distance from
universal time. -/
def instant? : Datum → Option Int
  | .moment value => if value.isAware then some value.instant else none
  | _ => none

/-- Whether two values are the same key of a mapping: equal texts are, equal numbers
whatever their kinds, equal instants, and otherwise values that are written alike. -/
def sameKey (left right : Datum) : Bool :=
  match left, right with
  | .text one, .text other => one == other
  | _, _ =>
    match left.integer?, right.integer? with
    | some one, some other => one == other
    | _, _ =>
      match left.instant?, right.instant? with
      | some one, some other => one == other
      | _, _ => left.shown == right.shown

/-- The entries of a mapping with the value under a key replaced, or added at the
end. -/
def putEntry {α : Type} (key : Datum) (value : α) : List (Datum × α) → List (Datum × α)
  | [] => [(key, value)]
  | entry :: rest =>
    if entry.1.sameKey key then (entry.1, value) :: rest
    else entry :: putEntry key value rest

def items? (datum : Datum) : Option (List Datum) :=
  match datum.untied with
  | .list items => some items
  | .set items => some items
  | .pair first second => some [first, second]
  | _ => none

/-! ## Comparing numbers -/

/-- A number as its side, which is that of an infinite number and zero otherwise, and
its count of the smallest floating-point unit. -/
def extent? : Datum → Option (Int × Int)
  | .flag value => some (0, if value then Binary64.unitsPerOne else 0)
  | .whole value => some (0, value * Binary64.unitsPerOne)
  | .real (.finite negative units) => some (0, Binary64.signedUnits negative units)
  | .real (.infinite negative) => some (if negative then -1 else 1, 0)
  | _ => none

def isNotANumber : Datum → Bool
  | .real .notANumber => true
  | _ => false

/-- How two values compare: numbers by their size, texts by their characters.  Nothing
compares with what stands for no number, and other values cannot be compared. -/
def order (left right : Datum) : Except Fault (Option Ordering) :=
  match left, right, left.extent?, right.extent? with
  | .text one, .text other, _, _ => .ok (some (compare one other))
  | _, _, some one, some other =>
    .ok (some ((compare one.1 other.1).then (compare one.2 other.2)))
  | _, _, one, other =>
    if (one.isSome || left.isNotANumber) && (other.isSome || right.isNotANumber) then
      .ok none
    else .error .wrongKind

end Datum

end LeaseRoster
