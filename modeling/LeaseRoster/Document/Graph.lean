import LeaseRoster.Document.Tag

/-!
# The graph of a document

The nodes of a document are known by numbers, since several places of a document can
hold one and the same node, and a node can be inside itself.  What is done to a node
holds wherever it is met.
-/

namespace LeaseRoster

namespace Document

/-- What a node holds; the nodes in it are given by their numbers. -/
inductive Content
  | scalar (text : List Char)
  | list (items : List Nat)
  | mapping (entries : List (Nat × Nat))

/-- A node of a document. -/
structure Node where
  tag : Tag
  content : Content

def Node.blank : Node := ⟨.null, .scalar []⟩

/-- The nodes of a document, each at its number. -/
structure Graph where
  nodes : Array Node

namespace Graph

def empty : Graph := ⟨#[]⟩

def size (graph : Graph) : Nat := graph.nodes.size

def node? (graph : Graph) (number : Nat) : Option Node := graph.nodes[number]?

/-- The graph with a further node, whose number is the size of the graph before. -/
def add (graph : Graph) (node : Node) : Graph := ⟨graph.nodes.push node⟩

/-- The graph with other content in a node. -/
def fill (graph : Graph) (number : Nat) (content : Content) : Graph :=
  ⟨graph.nodes.modify number fun node => { node with content }⟩

/-- The graph with another tag on a node. -/
def retag (graph : Graph) (number : Nat) (tag : Tag) : Graph :=
  ⟨graph.nodes.modify number fun node => { node with tag }⟩

def hasTag (graph : Graph) (number : Nat) (tag : Tag) : Bool :=
  (graph.node? number).any fun node => node.tag == tag

def entries? (graph : Graph) (number : Nat) : Option (List (Nat × Nat)) :=
  match graph.node? number with
  | some ⟨_, .mapping entries⟩ => some entries
  | _ => none

/-- The entries of a node, of which there are none unless it is a mapping. -/
def entries (graph : Graph) (number : Nat) : List (Nat × Nat) :=
  (graph.entries? number).getD []

@[simp] theorem size_add (graph : Graph) (node : Node) :
    (graph.add node).size = graph.size + 1 := by
  simp [add, size]

@[simp] theorem size_fill (graph : Graph) (number : Nat) (content : Content) :
    (graph.fill number content).size = graph.size := by
  simp [fill, size]

@[simp] theorem size_retag (graph : Graph) (number : Nat) (tag : Tag) :
    (graph.retag number tag).size = graph.size := by
  simp [retag, size]

end Graph

end Document

end LeaseRoster
