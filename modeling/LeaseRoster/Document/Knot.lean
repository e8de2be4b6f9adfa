import LeaseRoster.Datum

/-!
# Tying the values of a document

The nodes of a document make shapes, which name the nodes in them by number.  From the
shapes the value of a node is put together.  A collection that is inside itself becomes
a knot with its number as the label.
-/

namespace LeaseRoster

namespace Document

/-- What a node makes: a value, or a collection of what other nodes make. -/
inductive Shape
  | value (datum : Datum)
  | list (items : List Nat)
  | pairs (items : List (Nat × Nat))
  | set (items : List Datum)
  | mapping (entries : List (Datum × Nat))

namespace Shape

def isList : Shape → Bool
  | .list _ => true
  | .pairs _ => true
  | _ => false

/-- The value of a node, and the labels in it whose knots are around it. -/
structure Tied where
  datum : Datum
  loose : List Nat

/-- The values of nodes that need no knot around them. -/
abbrev Known := Array (Option Datum)

/-- The value of a whole collection: it is a knot if there are loose labels in it, as it
is inside itself then. -/
def tie (label : Nat) (body : Tied) : Tied :=
  if body.loose.isEmpty then body
  else ⟨.knot label body.datum, body.loose.filter (· != label)⟩

def tiedList (items : List Tied) : Tied :=
  ⟨.list (items.map Tied.datum), items.flatMap Tied.loose⟩

def tiedPair (first second : Tied) : Tied :=
  ⟨.pair first.datum second.datum, first.loose ++ second.loose⟩

def tiedMapping (entries : List (Datum × Tied)) : Tied :=
  ⟨.mapping (entries.map fun entry => (entry.1, entry.2.datum)),
    entries.flatMap fun entry => entry.2.loose⟩

/-- The value of a shape, given how the nodes in it make theirs. -/
def tiedFrom (make : Nat → StateM Known Tied) : Shape → StateM Known Tied
  | .value datum => return ⟨datum, []⟩
  | .set items => return ⟨.set items, []⟩
  | .list items => return tiedList (← items.mapM make)
  | .pairs items =>
    return tiedList (← items.mapM fun item => return tiedPair (← make item.1) (← make item.2))
  | .mapping entries =>
    return tiedMapping (← entries.mapM fun entry => return (entry.1, ← make entry.2))

/-- The value of a node inside the collections with some numbers.  The bound is on how
many further collections there can be around each other. -/
def tied (shapes : Array (Option Shape)) : Nat → List Nat → Nat → StateM Known Tied
  | 0, _, _ => return ⟨.null, []⟩
  | bound + 1, around, number => do
    match (← get)[number]?.join, shapes[number]?.join with
    | some datum, _ => return ⟨datum, []⟩
    | none, none => return ⟨.null, []⟩
    | none, some shape =>
      if around.contains number then return ⟨.recurring number shape.isList, [number]⟩
      else
        let made :=
          tie number (← tiedFrom (tied shapes bound (number :: around)) shape)
        if made.loose.isEmpty then
          modify fun known => known.setIfInBounds number (some made.datum)
        return made

/-- The value of a node, given what each node makes. -/
def datum (shapes : Array (Option Shape)) (number : Nat) : Datum :=
  ((tied shapes (shapes.size + 2) [] number).run
    (Array.replicate shapes.size none)).1.datum

end Shape

end Document

end LeaseRoster
