import LeaseRoster.Document.Block
import LeaseRoster.Document.Plain
import LeaseRoster.Document.Quoted
import LeaseRoster.Document.Token
import LeaseRoster.Index

/-!
# Finding the tokens of a document

The tokens are found one after the other.  A text may turn out to be a key only when
the colon behind it is met, so the place of every text that could be one is kept: the
mark of the key, and the start of the mapping that it opens, are put in front of it
afterwards.  Outside brackets the collections are those that the indentation makes.
-/

namespace LeaseRoster

namespace Document

/-- The place of a token that may turn out to be a key: the number of tokens in front
of it, whether it must be one, and where it stands. -/
structure KeyPlace where
  number : Nat
  isRequired : Bool
  index : Nat
  line : Nat
  column : Nat

/-- The state between two tokens.  The tokens are in reverse, and `count` is their
number; `flow` counts the open brackets, `indent` and `outer` are the columns of the open
block collections, and `keys` has the possible key at each depth of brackets. -/
structure Scan where
  cursor : Cursor
  tokens : List Token
  count : Nat
  flow : Nat
  indent : Int
  outer : List Int
  allowsKey : Bool
  keys : Index Nat KeyPlace

namespace Scan

/-- The state in front of the first token. -/
def start (text : List Char) : Scan where
  cursor := Cursor.start text
  tokens := []
  count := 0
  flow := 0
  indent := -1
  outer := []
  allowsKey := true
  keys := Index.empty

def inFlow (scan : Scan) : Bool := scan.flow != 0

def push (token : Token) (scan : Scan) : Scan :=
  { scan with tokens := token :: scan.tokens, count := scan.count + 1 }

/-- The state with a token put in front of the one with a number. -/
def insertAt (number : Nat) (token : Token) (scan : Scan) : Scan :=
  { scan with
    tokens := scan.tokens.insertIdx (scan.count - number) token
    count := scan.count + 1 }

def moveTo (cursor : Cursor) (scan : Scan) : Scan := { scan with cursor }

/-- The state in which a key may follow or not. -/
def allowKey (allowsKey : Bool) (scan : Scan) : Scan := { scan with allowsKey }

/-! ## Indentation -/

/-- Ends the block collections that are indented further than a column. -/
def unwindTo (column : Int) : List Int → Scan → Scan
  | [], scan => { scan with outer := [] }
  | next :: outer, scan =>
    if column < scan.indent then
      unwindTo column outer { scan.push .blockEnd with indent := next }
    else { scan with outer := next :: outer }

/-- Ends the block collections that a token at a column does not belong to. -/
def unwind (column : Int) (scan : Scan) : Scan :=
  if scan.inFlow then scan else unwindTo column scan.outer scan

def opens (column : Nat) (scan : Scan) : Bool :=
  !scan.inFlow && scan.indent < (column : Int)

/-- The state inside a block collection at a column. -/
def indented (column : Nat) (scan : Scan) : Scan :=
  { scan with indent := column, outer := scan.indent :: scan.outer }

/-- Opens a block collection at the present column, unless it is open already. -/
def openBlock (token : Token) (scan : Scan) : Scan :=
  let column := scan.cursor.column
  if scan.opens column then (scan.push token).indented column else scan

/-! ## Possible keys -/

def isStale (cursor : Cursor) (place : KeyPlace) : Bool :=
  place.line != cursor.line || 1024 < cursor.index - place.index

def dropStale (scan : Scan) : Except Fault Scan :=
  let stale (entry : Nat × KeyPlace) : Bool := isStale scan.cursor entry.2
  if scan.keys.entries.any fun entry => stale entry && entry.2.isRequired then
    .error (.document .keyWithoutColon)
  else .ok { scan with keys := ⟨scan.keys.entries.filter fun entry => !stale entry⟩ }

def dropKey (scan : Scan) : Except Fault Scan :=
  match scan.keys.find? scan.flow with
  | some place =>
    if place.isRequired then .error (.document .keyWithoutColon)
    else .ok { scan with keys := scan.keys.erase scan.flow }
  | none => .ok scan

def keepKey (scan : Scan) : Except Fault Scan :=
  if scan.allowsKey then do
    let dropped ← scan.dropKey
    let cursor := scan.cursor
    let place : KeyPlace :=
      { number := scan.count
        isRequired := !scan.inFlow && scan.indent == (cursor.column : Int)
        index := cursor.index
        line := cursor.line
        column := cursor.column }
    return { dropped with keys := dropped.keys.insert scan.flow place }
  else .ok scan

/-! ## Tokens -/

/-- The next token is a mark of some characters. -/
def mark (token : Token) (width : Nat) (scan : Scan) : Scan :=
  (scan.moveTo (scan.cursor.skip width)).push token

/-- Passes over blanks, comments and line breaks.  A new line may start with a key
outside brackets. -/
def skipToToken : Nat → Scan → Scan
  | 0, scan => scan
  | fuel + 1, scan =>
    let behind := scan.cursor.skipSpaces.skipComment
    match behind.lineBreak with
    | ([], _) => scan.moveTo behind
    | (_, next) =>
      ((scan.moveTo next).allowKey (scan.allowsKey || !scan.inFlow)).skipToToken fuel

/-- Passes over the mark of the byte order at the very start. -/
def skipOrderMark (scan : Scan) : Scan :=
  if scan.cursor.index == 0 && scan.cursor.peek?.any isOrderMark then
    scan.moveTo scan.cursor.step
  else scan

/-- Ends everything in front of a mark between documents. -/
def leaveDocument (scan : Scan) : Except Fault Scan :=
  (fun dropped => dropped.allowKey false) <$> (scan.unwind (-1)).dropKey

def finish (scan : Scan) : Except Fault Scan :=
  (fun ended => ended.push .streamEnd) <$> scan.leaveDocument

/-- A directive. -/
def directive (scan : Scan) : Except Fault Scan := do
  let left ← scan.leaveDocument
  let (token, next) ← directiveAt scan.cursor
  return (left.moveTo next).push token

/-- A mark between documents. -/
def separator (token : Token) (scan : Scan) : Except Fault Scan :=
  (mark token 3) <$> scan.leaveDocument

def openFlow (token : Token) (scan : Scan) : Except Fault Scan := do
  let kept ← scan.keepKey
  return { kept with flow := kept.flow + 1, allowsKey := true }.mark token 1

def closeFlow (token : Token) (scan : Scan) : Except Fault Scan := do
  let dropped ← scan.dropKey
  if scan.flow == 0 then throw (.document .unexpectedToken)
  return { dropped with flow := dropped.flow - 1, allowsKey := false }.mark token 1

/-- A comma between brackets. -/
def flowEntry (scan : Scan) : Except Fault Scan :=
  (mark .flowEntry 1) <$> (scan.allowKey true).dropKey

/-- The hyphen of an entry of a list. -/
def blockEntry (scan : Scan) : Except Fault Scan := do
  if !scan.inFlow && !scan.allowsKey then throw (.document .misplacedEntry)
  let dropped ← ((scan.openBlock .listStart).allowKey true).dropKey
  return dropped.mark .entry 1

/-- The question mark of a key. -/
def explicitKey (scan : Scan) : Except Fault Scan := do
  if !scan.inFlow && !scan.allowsKey then throw (.document .misplacedKey)
  let opened := (scan.openBlock .mappingStart).allowKey (!scan.inFlow)
  let dropped ← opened.dropKey
  return dropped.mark .key 1

/-- The colon behind a text that turns out to be a key. -/
def valueOfKey (place : KeyPlace) (scan : Scan) : Scan :=
  let known := { scan with keys := scan.keys.erase scan.flow }
  let marked := known.insertAt place.number .key
  let opened :=
    if scan.opens place.column then
      (marked.insertAt place.number .mappingStart).indented place.column
    else marked
  (opened.allowKey false).mark .value 1

/-- The colon of a value. -/
def value (scan : Scan) : Except Fault Scan :=
  match scan.keys.find? scan.flow with
  | some place => .ok (scan.valueOfKey place)
  | none => do
    if !scan.inFlow && !scan.allowsKey then throw (.document .misplacedColon)
    let opened := (scan.openBlock .mappingStart).allowKey (!scan.inFlow)
    let dropped ← opened.dropKey
    return dropped.mark .value 1

/-- A token that may be a key, found by a reader. -/
def keyed (read : Cursor → Except Fault (Token × Cursor)) (scan : Scan) :
    Except Fault Scan := do
  let kept ← scan.keepKey
  let (token, next) ← read scan.cursor
  return ((kept.allowKey false).moveTo next).push token

/-- A named token. -/
def named (token : String → Token) : Scan → Except Fault Scan :=
  keyed fun cursor => do
    let (name, next) ← nameAt cursor
    return (token name, next)

def quoted : Scan → Except Fault Scan :=
  keyed fun cursor => do
    let (text, next) ← quotedText cursor
    return (.scalar text false, next)

def block (isFolded : Bool) (scan : Scan) : Except Fault Scan := do
  let dropped ← (scan.allowKey true).dropKey
  let (text, next) ← blockText isFolded scan.indent scan.cursor
  return (dropped.moveTo next).push (.scalar text false)

/-- A plain text.  A key may follow it on a new line. -/
def plain (scan : Scan) : Except Fault Scan := do
  let kept ← scan.keepKey
  let found := plainText scan.inFlow scan.indent scan.cursor
  return ((kept.allowKey found.brokeLine).moveTo found.cursor).push
    (.scalar found.text true)

/-- Whether a mark is one because of what stands behind it. -/
def standsAlone (scan : Scan) : Bool := endsWord scan.cursor.step.peek?

/-- Whether a mark is one inside brackets, or because of what stands behind it. -/
def isMark (scan : Scan) : Bool := scan.inFlow || scan.standsAlone

def token (character : Char) (scan : Scan) : Except Fault Scan :=
  let atLineStart := scan.cursor.column == 0
  if character == '%' && atLineStart then scan.directive
  else if atLineStart && scan.cursor.atDocumentStart then scan.separator .documentStart
  else if atLineStart && scan.cursor.atDocumentEnd then scan.separator .documentEnd
  else if character == '[' then scan.openFlow .flowListStart
  else if character == '\x7b' then scan.openFlow .flowMappingStart
  else if character == ']' then scan.closeFlow .flowListEnd
  else if character == '\x7d' then scan.closeFlow .flowMappingEnd
  else if character == ',' then scan.flowEntry
  else if character == '-' && scan.standsAlone then scan.blockEntry
  else if character == '?' && scan.isMark then scan.explicitKey
  else if character == ':' && scan.isMark then scan.value
  else if character == '*' then scan.named .reference
  else if character == '&' then scan.named .anchor
  else if character == '!' then scan.keyed tagAt
  else if character == '|' && !scan.inFlow then scan.block false
  else if character == '>' && !scan.inFlow then scan.block true
  else if character == '\'' || character == '"' then scan.quoted
  else if atPlain scan.inFlow scan.cursor then scan.plain
  else .error (.document (.unexpectedCharacter character))

/-- The place of the next token, with the blocks ended that it does not belong to. -/
def atToken (scan : Scan) : Except Fault Scan := do
  let skipped := scan.skipOrderMark.skipToToken (scan.cursor.rest.length + 1)
  let fresh ← skipped.dropStale
  return fresh.unwind fresh.cursor.column

def run : Nat → Scan → List Token
  | 0, scan => scan.tokens.reverse
  | fuel + 1, scan =>
    match scan.atToken with
    | .error fault => (scan.push (.broken fault)).tokens.reverse
    | .ok ready =>
      match ready.cursor.peek? with
      | none =>
        match ready.finish with
        | .ok ended => ended.tokens.reverse
        | .error fault => (ready.push (.broken fault)).tokens.reverse
      | some character =>
        match ready.token character with
        | .ok next => run fuel next
        | .error fault => (ready.push (.broken fault)).tokens.reverse

end Scan

def tokens (text : List Char) : List Token :=
  Scan.run (text.length + 1) (Scan.start text)

end Document

end LeaseRoster
