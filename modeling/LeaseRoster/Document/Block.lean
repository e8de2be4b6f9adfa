import LeaseRoster.Document.Cursor

/-!
# Blocks of text in a document

A block of text is a run of lines indented alike, which are kept as they are or
folded.  Its header says how far it is indented, where its first line does not show
it, and what becomes of the breaks at its end.
-/

namespace LeaseRoster

namespace Document

/-- What becomes of the breaks at the end of a block. -/
inductive Chomping
  | strip
  | clip
  | keep
deriving DecidableEq

/-- What the header of a block says. -/
structure BlockHeader where
  chomping : Chomping
  indent : Option Nat

def chomping? : Option Char → Option Chomping
  | some '+' => some .keep
  | some '-' => some .strip
  | _ => none

def indentDigit? : Option Char → Option Nat
  | some character =>
    if '0' ≤ character && character ≤ '9' then some (character.toNat - 0x30) else none
  | none => none

/-- The sign and the digit of a header in either order, and the place behind them. -/
def blockSigns (cursor : Cursor) : Option Chomping × Option Nat × Cursor :=
  match chomping? cursor.peek? with
  | some chomping =>
    match indentDigit? cursor.step.peek? with
    | some digit => (some chomping, some digit, cursor.skip 2)
    | none => (some chomping, none, cursor.step)
  | none =>
    match indentDigit? cursor.peek? with
    | some digit =>
      match chomping? cursor.step.peek? with
      | some chomping => (some chomping, some digit, cursor.skip 2)
      | none => (none, some digit, cursor.step)
    | none => (none, none, cursor)

/-- The header of a block, and the place at the start of the next line. -/
def blockHeader (cursor : Cursor) : Except Fault (BlockHeader × Cursor) :=
  let (chomping, indent, behind) := blockSigns cursor
  if indent == some 0 || !endsField behind.peek? then
    .error (.document .malformedHeader)
  else
    match behind.endLine? with
    | some next => .ok (⟨chomping.getD .clip, indent⟩, next)
    | none => .error (.document .malformedHeader)

/-- The breaks of the blank lines at the start of a block, the greatest column in them,
and the place of the first other character. -/
def firstBreaks : Nat → Cursor → List Char → Nat → List Char × Nat × Cursor
  | 0, cursor, read, widest => (read, widest, cursor)
  | fuel + 1, cursor, read, widest =>
    let behind := cursor.skipSpaces
    let wider := max widest behind.column
    match behind.lineBreak with
    | ([], _) => (read, wider, behind)
    | (lineBreak, next) => firstBreaks fuel next (read ++ lineBreak) wider

/-- The place behind the spaces that come next, up to a column. -/
def skipIndent (indent : Nat) (cursor : Cursor) : Cursor :=
  cursor.skip ((cursor.rest.takeWhile (· == ' ')).take (indent - cursor.column)).length

/-- The breaks of the blank lines inside a block, and the place at which the next line
starts. -/
def blockBreaks (indent : Nat) : Nat → Cursor → List Char → List Char × Cursor
  | 0, cursor, read => (read, cursor)
  | fuel + 1, cursor, read =>
    let behind := skipIndent indent cursor
    match behind.lineBreak with
    | ([], _) => (read, behind)
    | (lineBreak, next) => blockBreaks indent fuel next (read ++ lineBreak)

def blockBreaksFrom (indent : Nat) (cursor : Cursor) : List Char × Cursor :=
  blockBreaks indent (cursor.rest.length + 1) cursor []

def atBlockLine (indent : Nat) (cursor : Cursor) : Bool :=
  cursor.column == indent && cursor.peek?.isSome

def lineJoint (isFolded : Bool) (line lineBreak breaks : List Char) (next : Option Char) :
    List Char :=
  if isFolded && lineBreak == ['\n'] && !line.head?.any isSpace && !next.any isSpace then
    if breaks.isEmpty then [' '] else []
  else lineBreak

def blockEnd (chomping : Chomping) (lineBreak breaks : List Char) : List Char :=
  match chomping with
  | .strip => []
  | .clip => lineBreak
  | .keep => lineBreak ++ breaks

/-- The lines of a block from a place on, with the breaks in front of them. -/
def blockFrom (isFolded : Bool) (chomping : Chomping) (indent : Nat) :
    Nat → Cursor → (read lineBreak breaks : List Char) → List Char × Cursor
  | 0, cursor, read, _, _ => (read, cursor)
  | fuel + 1, cursor, read, lineBreak, breaks =>
    if atBlockLine indent cursor then
      let line := cursor.rest.takeWhile fun character => !isBreak character
      let (nextBreak, behind) := (cursor.skip line.length).lineBreak
      let (nextBreaks, next) := blockBreaksFrom indent behind
      let text := read ++ breaks ++ line
      if atBlockLine indent next then
        let joint := lineJoint isFolded line nextBreak nextBreaks next.peek?
        blockFrom isFolded chomping indent fuel next (text ++ joint) nextBreak nextBreaks
      else (text ++ blockEnd chomping nextBreak nextBreaks, next)
    else (read ++ blockEnd chomping lineBreak breaks, cursor)

/-- The block of text at a place inside a collection indented by some columns, and the
place behind it. -/
def blockText (isFolded : Bool) (outer : Int) (cursor : Cursor) :
    Except Fault (List Char × Cursor) := do
  let (header, start) ← blockHeader cursor.step
  let least := (max 1 (outer + 1)).toNat
  match header.indent with
  | some digit =>
    let indent := least + digit - 1
    let (breaks, first) := blockBreaksFrom indent start
    return blockFrom isFolded header.chomping indent (first.rest.length + 1) first [] []
      breaks
  | none =>
    let (breaks, widest, first) := firstBreaks (start.rest.length + 1) start [] 0
    return blockFrom isFolded header.chomping (max least widest) (first.rest.length + 1)
      first [] [] breaks

end Document

end LeaseRoster
