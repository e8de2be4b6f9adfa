import LeaseRoster.Document.Knot
import LeaseRoster.Document.Merge
import LeaseRoster.Document.Node
import LeaseRoster.Document.Scalar
import LeaseRoster.Document.Scan
import LeaseRoster.Number.Slot

/-!
# The value of a document

Documents are written in YAML 1.1.  Every node makes one value as its tag says, wherever
it is met.  A scalar makes its value at once.  A collection is only noted when it is
met; the collections are filled one after the other in the order in which they were
noted, and filling one meets the nodes in it.  The first fault on this way counts.
-/

namespace LeaseRoster

namespace Document

/-- The nodes of a document, what they have made so far, and the collections in the
order in which they were met.  The bound is greater than the number of merge marks. -/
structure Making where
  graph : Graph
  made : Array (Option Shape)
  noted : Array Nat
  bound : Nat

/-- A step of making the values of a document. -/
abbrev Maker := StateT Making (Except Fault)

namespace Making

/-- The making of the values of a graph, at its start. -/
def start (graph : Graph) : Making :=
  ⟨graph, Array.replicate graph.size none, #[], graph.mergeBound⟩

def shape? (making : Making) (number : Nat) : Option Shape := (making.made[number]?).join

def put (making : Making) (number : Nat) (shape : Shape) : Making :=
  { making with made := making.made.setIfInBounds number (some shape) }

/-- The making with a collection noted, which is empty so far. -/
def note (making : Making) (number : Nat) : Making :=
  { making.put number (.list []) with noted := making.noted.push number }

end Making

namespace Maker

def stop {α : Type} (fault : Fault) : Maker α := throw fault

/-- Stops the making because content does not suit its tag. -/
def unsuited {α : Type} : Maker α := stop (.document .wrongContent)

def node (number : Nat) : Maker Node := do
  match (← get).graph.node? number with
  | some node => return node
  | none => unsuited

def put (number : Nat) (shape : Shape) : Maker Unit :=
  modify fun making => making.put number shape

/-! ## Scalars -/

/-- The first entry of a mapping with an equals sign as its key. -/
def textEntry? (graph : Graph) (entries : List (Nat × Nat)) : Option (Nat × Nat) :=
  entries.find? fun entry => graph.hasTag entry.1 .value

/-- The text of a scalar.  A mapping with an equals sign as a key has the text of the
value under it.  The bound is on how deep the values are nested. -/
def scalarText : Nat → Node → Maker (List Char)
  | _, ⟨_, .scalar text⟩ => return text
  | 0, ⟨_, .mapping entries⟩ => do
    match textEntry? (← get).graph entries with
    | none => unsuited
    | some _ => stop .tooDeep
  | bound + 1, ⟨_, .mapping entries⟩ => do
    match textEntry? (← get).graph entries with
    | none => unsuited
    | some entry => scalarText bound (← node entry.2)
  | _, _ => unsuited

def isScalar : Node → Bool
  | ⟨_, .scalar _⟩ => true
  | _ => false

/-- The value of a kind that a node makes as a scalar.  The spelling of a moment must be
that of the node itself. -/
def scalarOf (scalar : Node) : Maker Datum := do
  let text ← scalarText (← get).graph.size scalar
  if scalar.tag = .moment && !isScalar scalar then stop .wrongKind
  else liftM (scalarValue scalar.tag text)

/-- The value that a node makes with a tag that is no collection's. -/
def simpleOf (simple : Node) : Maker Datum :=
  match simple.tag with
  | .other name => stop (.document (.unknownTag name))
  | .merge => stop (.document (.unknownTag "merge"))
  | .value => stop (.document (.unknownTag "value"))
  | _ => scalarOf simple

/-! ## Collections -/

/-- Meets a node: what is no collection makes its value, and a collection that is met
for the first time is noted. -/
def meet (number : Nat) : Maker Unit := do
  if ((← get).shape? number).isNone then
    let met ← node number
    if met.tag.isCollection then modify fun making => making.note number
    else put number (.value (← simpleOf met))

/-- Meets a key, which must be no collection. -/
def meetKey (number : Nat) : Maker Datum := do
  meet number
  match (← get).shape? number with
  | some (.value key) => return key
  | _ => stop (.document .collectionAsKey)

/-- The entries of a mapping, of which the last one under a key counts. -/
def entriesOf (number : Nat) : Maker (List (Datum × Nat)) := do
  match (← node number).content with
  | .mapping _ =>
    let making ← get
    let graph ← liftM (making.graph.flatten making.bound number)
    modify fun making => { making with graph }
    (graph.entries number).foldlM
      (fun known entry => do
        let key ← meetKey entry.1
        meet entry.2
        return Datum.putEntry key entry.2 known)
      []
  | _ => unsuited

def itemsOf (number : Nat) : Maker (List Nat) := do
  match (← node number).content with
  | .list items => return items
  | _ => unsuited

def pairOf (number : Nat) : Maker (Nat × Nat) := do
  match (← node number).content with
  | .mapping [(key, value)] =>
    meet key
    meet value
    return (key, value)
  | _ => unsuited

/-- The word of a key that is a number. -/
def wordOf? : Datum → Option Nat
  | .flag value => some (if value then 1 else 0)
  | .whole value => some (Slot.ofInt value)
  | .real value => Slot.ofBinary64? value
  | _ => none

/-- The keys of a set in the order in which it lists them: numbers have one of their
own. -/
def setOrder (keys : List Datum) : List Datum :=
  match keys.mapM fun key => (wordOf? key).map (·, key) with
  | some words => Slot.arranged words
  | none => keys

def shapeOf (number : Nat) : Maker Shape := do
  match (← node number).tag with
  | .mapping => return .mapping (← entriesOf number)
  | .set => return .set (setOrder ((← entriesOf number).map Prod.fst))
  | .list =>
    let items ← itemsOf number
    items.forM meet
    return .list items
  | _ => return .pairs (← (← itemsOf number).mapM pairOf)

/-- Fills the collections that are noted, from the one at a place on.  The bound is on
their number. -/
def fillFrom : Nat → Nat → Maker Unit
  | 0, _ => return ()
  | bound + 1, place => do
    match (← get).noted[place]? with
    | none => return ()
    | some number =>
      put number (← shapeOf number)
      fillFrom bound (place + 1)

end Maker

def Graph.value (graph : Graph) (root : Nat) : Except Fault Datum := do
  let making : Maker Unit := do
    Maker.meet root
    Maker.fillFrom graph.size 0
  let ((), made) ← making.run (.start graph)
  return Shape.datum made.made root

def isPrintable (character : Char) : Bool :=
  let code := character.toNat
  code == 0x09 || code == 0x0a || code == 0x0d || (0x20 ≤ code && code ≤ 0x7e) ||
    code == 0x85 || (0xa0 ≤ code && code ≤ 0xfffd) || 0x10000 ≤ code

/-- The value of a document whose line breaks are unified, null if there is none. -/
def read (text : List Char) : Except Fault Datum :=
  if !text.all isPrintable then .error (.document .unprintable)
  else do
    match ← Graph.ofTokens (tokens text) with
    | some (graph, root) => graph.value root
    | none => return .null

end Document

end LeaseRoster
