import LeaseRoster.Document.Graph

/-!
# Merging mappings

An entry of a mapping under the merge mark gives the mapping the entries of one or more
other mappings, which come in front of its own.  The entries are put in place, once and
for all: the other mappings too are left without the mark.
-/

namespace LeaseRoster

namespace Document

namespace Graph

/-- The value of the first entry under the merge mark, and the other entries. -/
def splitMerge? (graph : Graph) :
    List (Nat × Nat) → Option (Nat × List (Nat × Nat))
  | [] => none
  | entry :: rest =>
    if graph.hasTag entry.1 .merge then some (entry.2, rest)
    else (splitMerge? graph rest).map fun (value, others) => (value, entry :: others)

/-- The mappings that the value of a merge mark names, in their order. -/
def mergeSources (graph : Graph) (number : Nat) : Except Fault (List Nat) :=
  match graph.node? number with
  | some ⟨_, .mapping _⟩ => .ok [number]
  | some ⟨_, .list items⟩ =>
    if items.all fun item => (graph.entries? item).isSome then .ok items
    else .error (.document .malformedMerge)
  | _ => .error (.document .malformedMerge)

/-- The graph in which the keys of a mapping that are equals signs are texts. -/
def settle (graph : Graph) (number : Nat) : Graph :=
  (graph.entries number).foldl
    (fun settled entry =>
      if settled.hasTag entry.1 .value then settled.retag entry.1 .text else settled)
    graph

/-- The graph with the merge marks of a mapping done away with, the first one first.  Of
several mappings under one mark the earlier ones count more, so they come later.  The
bound is greater than the number of marks. -/
def flatten : Nat → Graph → Nat → Except Fault Graph
  | 0, graph, _ => .ok graph
  | bound + 1, graph, number =>
    match graph.splitMerge? (graph.entries number) with
    | none => .ok (graph.settle number)
    | some (value, others) => do
      let sources ← graph.mergeSources value
      let merged ← sources.foldlM (flatten bound) (graph.fill number (.mapping others))
      let gathered := sources.reverse.flatMap merged.entries
      let rest ← flatten bound merged number
      return rest.fill number (.mapping (gathered ++ rest.entries number))

/-- A number greater than that of the merge marks in a graph. -/
def mergeBound (graph : Graph) : Nat :=
  graph.nodes.foldl
    (fun total node =>
      match node.content with
      | .mapping entries => total + entries.length
      | _ => total)
    1

end Graph

end Document

end LeaseRoster
