import LeaseRoster.Document.Graph
import LeaseRoster.Document.Scalar
import LeaseRoster.Document.Token
import LeaseRoster.Index

/-!
# The nodes of a document

The tokens of a document make nodes, each with its tag.  A collection gets its number
before the nodes in it.  An alias stands for the number under its anchor, also inside
that very node.  Where a key or a value is missing there is an empty scalar.
-/

namespace LeaseRoster

namespace Document

namespace Graph

/-- How deep the collections of a document may be nested. -/
def depthLimit : Nat := 488

/-- The tokens to come, the numbers of the nodes under the anchors met, the nodes found
and the number of the collections around. -/
structure Reading where
  tokens : List Token
  anchors : Index String Nat
  graph : Graph
  depth : Nat

/-- Why tokens do not go on as they should. -/
def refuse {α : Type} : List Token → Except Fault α
  | .broken fault :: _ => .error fault
  | _ => .error (.document .unexpectedToken)

namespace Reading

/-- The reading with some tokens to come. -/
def before (reading : Reading) (tokens : List Token) : Reading :=
  { reading with tokens }

/-- The reading with a number under an anchor, if there is one. -/
def name (reading : Reading) (anchor : Option String) (number : Nat) : Reading :=
  match anchor with
  | some name => { reading with anchors := reading.anchors.insert name number }
  | none => reading

/-- A further node, and the reading with it. -/
def add (reading : Reading) (anchor : Option String) (node : Node) : Nat × Reading :=
  let number := reading.graph.size
  (number, ({ reading with graph := reading.graph.add node } : Reading).name anchor number)

/-- A further collection, and the reading inside it. -/
def enter (reading : Reading) (anchor : Option String) (tag : Tag) :
    Except Fault (Nat × Reading) :=
  if depthLimit ≤ reading.depth then .error .tooDeep
  else
    let (number, inside) := reading.add anchor ⟨tag, .list []⟩
    .ok (number, { inside with depth := reading.depth + 1 })

/-- The reading behind a collection, whose content is known now. -/
def leave (reading : Reading) (number : Nat) (content : Content) : Nat × Reading :=
  (number,
    { reading with
      graph := reading.graph.fill number content
      depth := reading.depth - 1 })

/-- A further node where nothing is written. -/
def blank (reading : Reading) : Nat × Reading := reading.add none .blank

end Reading

/-! ## Properties -/

/-- The anchor and the tag in front of a node. -/
structure Properties where
  anchor : Option String
  tag : Option String

def fullName (handles : Index String String) (handle : Option String)
    (suffix : String) : Except Fault String :=
  match handle with
  | none => .ok suffix
  | some name =>
    match handles.find? name with
    | some meaning => .ok (meaning ++ suffix)
    | none => .error (.document (.undefinedHandle name))

/-- The anchor and the tag at the front of some tokens, in either order. -/
def properties (handles : Index String String) :
    List Token → Except Fault (Properties × List Token)
  | .anchor name :: .tag handle suffix :: rest =>
    (fullName handles handle suffix).map fun tag => (⟨some name, some tag⟩, rest)
  | .tag handle suffix :: .anchor name :: rest =>
    (fullName handles handle suffix).map fun tag => (⟨some name, some tag⟩, rest)
  | .tag handle suffix :: rest =>
    (fullName handles handle suffix).map fun tag => (⟨none, some tag⟩, rest)
  | .anchor name :: rest => .ok (⟨some name, none⟩, rest)
  | tokens => .ok (⟨none, none⟩, tokens)

/-- The tag of a node without one of its own, or with the open one, is the usual. -/
def Properties.tagOr (properties : Properties) (usual : Tag) : Tag :=
  match properties.tag with
  | none => usual
  | some name => if name == Tag.openName then usual else Tag.ofName name

/-- The tag of a scalar.  Its spelling counts if it is plain, or if the tag is the open
one. -/
def Properties.scalarTag (properties : Properties) (text : List Char) (isPlain : Bool) :
    Tag :=
  match properties.tag with
  | none => if isPlain then spelledTag text else .text
  | some name => if name == Tag.openName then spelledTag text else Tag.ofName name

def Properties.isPresent (properties : Properties) : Bool :=
  properties.anchor.isSome || properties.tag.isSome

/-- Whether an anchor has not been met yet. -/
def Properties.check (properties : Properties) (anchors : Index String Nat) :
    Except Fault Unit :=
  match properties.anchor with
  | some name =>
    if (anchors.find? name).isSome then .error (.document (.repeatedAnchor name))
    else .ok ()
  | none => .ok ()

/-! ## Collections -/

def isMissingInBlock : List Token → Bool
  | .key :: _ => true
  | .value :: _ => true
  | .blockEnd :: _ => true
  | _ => false

def isMissingEntry : List Token → Bool
  | .entry :: _ => true
  | .blockEnd :: _ => true
  | _ => false

/-- Whether a node is missing between brackets that a token closes. -/
def isMissingInFlow (closing : Token) : List Token → Bool
  | .value :: _ => true
  | .flowEntry :: _ => true
  | token :: _ => token == closing
  | [] => false

/-- The tokens behind the comma between two items, if they are not the first. -/
def behindComma (isFirst : Bool) : List Token → Except Fault (List Token)
  | .flowEntry :: rest => if isFirst then .ok (.flowEntry :: rest) else .ok rest
  | tokens => if isFirst then .ok tokens else refuse tokens

mutual

/-- The node at the front of the tokens.  Block collections, and lists that are not
indented, are found only where they are allowed. -/
def node (handles : Index String String) (inBlock listAllowed : Bool) :
    Nat → Reading → Except Fault (Nat × Reading)
  | 0, reading => refuse reading.tokens
  | fuel + 1, reading =>
    match reading.tokens with
    | .reference name :: rest =>
      match reading.anchors.find? name with
      | some number => .ok (number, reading.before rest)
      | none => .error (.document (.undefinedAlias name))
    | tokens => do
      let (found, rest) ← properties handles tokens
      found.check reading.anchors
      let lone : Except Fault (Nat × Reading) :=
        if found.isPresent then
          .ok ((reading.before rest).add found.anchor ⟨found.scalarTag [] true, .scalar []⟩)
        else refuse rest
      match rest with
      | .scalar text isPlain :: behind =>
        return (reading.before behind).add found.anchor
          ⟨found.scalarTag text isPlain, .scalar text⟩
      | .flowListStart :: behind =>
        let (number, inside) ← (reading.before behind).enter found.anchor (found.tagOr .list)
        let (items, last) ← flowItems handles true fuel inside
        return last.leave number (.list items)
      | .flowMappingStart :: behind =>
        let (number, inside) ←
          (reading.before behind).enter found.anchor (found.tagOr .mapping)
        let (entries, last) ← flowEntries handles true fuel inside
        return last.leave number (.mapping entries)
      | .entry :: _ =>
        if listAllowed then do
          let (number, inside) ← (reading.before rest).enter found.anchor (found.tagOr .list)
          let (items, last) ← openItems handles fuel inside
          return last.leave number (.list items)
        else lone
      | .listStart :: behind =>
        if inBlock then do
          let (number, inside) ← (reading.before behind).enter found.anchor (found.tagOr .list)
          let (items, last) ← blockItems handles fuel inside
          return last.leave number (.list items)
        else lone
      | .mappingStart :: behind =>
        if inBlock then do
          let (number, inside) ←
            (reading.before behind).enter found.anchor (found.tagOr .mapping)
          let (entries, last) ← blockEntries handles fuel inside
          return last.leave number (.mapping entries)
        else lone
      | _ => lone

def blockItems (handles : Index String String) :
    Nat → Reading → Except Fault (List Nat × Reading)
  | 0, reading => refuse reading.tokens
  | fuel + 1, reading =>
    match reading.tokens with
    | .blockEnd :: rest => .ok ([], reading.before rest)
    | .entry :: rest => do
      let (item, next) ←
        if isMissingEntry rest then .ok (reading.before rest).blank
        else node handles true false fuel (reading.before rest)
      let (items, last) ← blockItems handles fuel next
      return (item :: items, last)
    | tokens => refuse tokens

/-- The items of a list that is not indented; it ends where they do. -/
def openItems (handles : Index String String) :
    Nat → Reading → Except Fault (List Nat × Reading)
  | 0, reading => refuse reading.tokens
  | fuel + 1, reading =>
    match reading.tokens with
    | .entry :: rest => do
      let (item, next) ←
        if isMissingEntry rest || isMissingInBlock rest then .ok (reading.before rest).blank
        else node handles true false fuel (reading.before rest)
      let (items, last) ← openItems handles fuel next
      return (item :: items, last)
    | _ => .ok ([], reading)

/-- A key or value of a block mapping, which may be missing. -/
def blockPart (handles : Index String String) : Nat → Reading → Except Fault (Nat × Reading)
  | 0, reading => refuse reading.tokens
  | fuel + 1, reading =>
    if isMissingInBlock reading.tokens then .ok reading.blank
    else node handles true true fuel reading

def blockEntries (handles : Index String String) :
    Nat → Reading → Except Fault (List (Nat × Nat) × Reading)
  | 0, reading => refuse reading.tokens
  | fuel + 1, reading =>
    match reading.tokens with
    | .blockEnd :: rest => .ok ([], reading.before rest)
    | .key :: rest => do
      let (key, next) ← blockPart handles fuel (reading.before rest)
      let (value, behind) ←
        match next.tokens with
        | .value :: more => blockPart handles fuel (next.before more)
        | _ => .ok next.blank
      let (entries, last) ← blockEntries handles fuel behind
      return ((key, value) :: entries, last)
    | tokens => refuse tokens

/-- A key or value between brackets, which may be missing. -/
def flowPart (handles : Index String String) (closing : Token) :
    Nat → Reading → Except Fault (Nat × Reading)
  | 0, reading => refuse reading.tokens
  | fuel + 1, reading =>
    if isMissingInFlow closing reading.tokens then .ok reading.blank
    else node handles false false fuel reading

/-- The value behind a key between brackets, which may be missing together with its
colon. -/
def flowValue (handles : Index String String) (closing : Token) :
    Nat → Reading → Except Fault (Nat × Reading)
  | 0, reading => refuse reading.tokens
  | fuel + 1, reading =>
    match reading.tokens with
    | .value :: .value :: rest => refuse (.value :: rest)
    | .value :: rest => flowPart handles closing fuel (reading.before rest)
    | _ => .ok reading.blank

/-- The items of a list between brackets.  A key makes an item that is a mapping with
one entry. -/
def flowItems (handles : Index String String) (isFirst : Bool) :
    Nat → Reading → Except Fault (List Nat × Reading)
  | 0, reading => refuse reading.tokens
  | fuel + 1, reading =>
    match reading.tokens with
    | .flowListEnd :: rest => .ok ([], reading.before rest)
    | tokens => do
      match ← behindComma isFirst tokens with
      | .flowListEnd :: rest => return ([], reading.before rest)
      | .key :: rest =>
        let (number, inside) ← (reading.before rest).enter none .mapping
        let (key, next) ← flowPart handles .flowListEnd fuel inside
        let (value, behind) ← flowValue handles .flowListEnd fuel next
        let (item, outside) := behind.leave number (.mapping [(key, value)])
        let (items, last) ← flowItems handles false fuel outside
        return (item :: items, last)
      | rest =>
        let (item, next) ← node handles false false fuel (reading.before rest)
        let (items, last) ← flowItems handles false fuel next
        return (item :: items, last)

def flowEntries (handles : Index String String) (isFirst : Bool) :
    Nat → Reading → Except Fault (List (Nat × Nat) × Reading)
  | 0, reading => refuse reading.tokens
  | fuel + 1, reading =>
    match reading.tokens with
    | .flowMappingEnd :: rest => .ok ([], reading.before rest)
    | tokens => do
      match ← behindComma isFirst tokens with
      | .flowMappingEnd :: rest => return ([], reading.before rest)
      | .key :: rest =>
        let (key, next) ← flowPart handles .flowMappingEnd fuel (reading.before rest)
        let (value, behind) ← flowValue handles .flowMappingEnd fuel next
        let (entries, last) ← flowEntries handles false fuel behind
        return ((key, value) :: entries, last)
      | rest =>
        let (key, next) ← node handles false false fuel (reading.before rest)
        let (value, behind) := next.blank
        let (entries, last) ← flowEntries handles false fuel behind
        return ((key, value) :: entries, last)

end

/-! ## Documents -/

/-- The meanings of the handles that some directives and every document declare. -/
def allHandles (declared : Index String String) : Index String String :=
  Tag.knownHandles.foldl
    (fun handles known =>
      if (handles.find? known.1).isSome then handles else handles.insert known.1 known.2)
    declared

/-- The handles that the directives in front of a document declare, and the tokens
behind its start. -/
def documentHead (hasVersion : Bool) (declared : Index String String) :
    List Token → Except Fault (Index String String × List Token)
  | .directive (.version major) :: rest =>
    if hasVersion then .error (.document .repeatedDirective)
    else if major != 1 then .error (.document .incompatibleVersion)
    else documentHead true declared rest
  | .directive (.handle handle meaning) :: rest =>
    if (declared.find? handle).isSome then .error (.document .repeatedDirective)
    else documentHead hasVersion (declared.insert handle meaning) rest
  | .directive .other :: rest => documentHead hasVersion declared rest
  | .documentStart :: rest => .ok (allHandles declared, rest)
  | tokens => refuse tokens

def isMissingContent : List Token → Bool
  | .directive _ :: _ => true
  | .documentStart :: _ => true
  | .documentEnd :: _ => true
  | .streamEnd :: _ => true
  | _ => false

def startsAtOnce : List Token → Bool
  | .directive _ :: _ => false
  | .documentStart :: _ => false
  | .streamEnd :: _ => false
  | _ => true

/-- Refuses everything behind a document but marks of its end. -/
def checkEnd : List Token → Except Fault Unit
  | .streamEnd :: _ => .ok ()
  | .documentEnd :: rest => checkEnd rest
  | .documentStart :: _ => .error (.document .severalDocuments)
  | tokens => refuse tokens

/-- The nodes of a document from its first tokens on, and the number of its root. -/
def root (handles : Index String String) (tokens : List Token) :
    Except Fault (Graph × Nat) := do
  let reading : Reading := ⟨tokens, Index.empty, empty, 0⟩
  let (number, last) ← node handles true false (3 * tokens.length + 3) reading
  checkEnd last.tokens
  return (last.graph, number)

/-- The nodes of the only document that some tokens make, if there is one, and the
number of its root. -/
def ofTokens (tokens : List Token) : Except Fault (Option (Graph × Nat)) :=
  if startsAtOnce tokens then some <$> root (allHandles Index.empty) tokens
  else
    match tokens with
    | .streamEnd :: _ => .ok none
    | _ => do
      let (handles, rest) ← documentHead false Index.empty tokens
      if isMissingContent rest then
        checkEnd rest
        return some (empty.add .blank, empty.size)
      else some <$> root handles rest

end Graph

end Document

end LeaseRoster
