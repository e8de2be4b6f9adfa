import LeaseRoster.Document.Cursor

/-!
# Plain texts in a document

A text without quotes goes on as long as nothing in it has a meaning of its own.  It
may run over several lines; a line break inside it is folded, and a comment, a line
indented too little or a document separator ends it.
-/

namespace LeaseRoster

namespace Document

/-- Whether a character is a bracket or comma of a flow collection. -/
def isFlowMark (character : Char) : Bool :=
  character == ',' || character == '[' || character == ']' || character == '\x7b' ||
    character == '\x7d'

/-- Whether a colon in front of what comes next ends a plain text. -/
def endsAtColon (inFlow : Bool) (next : Option Char) : Bool :=
  endsWord next || (inFlow && next.any isFlowMark)

def endsPlain (inFlow : Bool) : List Char → Bool
  | [] => true
  | character :: rest =>
    endsWord (some character) || (character == ':' && endsAtColon inFlow rest.head?) ||
      (inFlow && (character == '?' || isFlowMark character))

def plainStretch (inFlow : Bool) : List Char → List Char
  | [] => []
  | character :: rest =>
    if endsPlain inFlow (character :: rest) then []
    else character :: plainStretch inFlow rest

/-- What stands between two stretches of a plain text: its folded form, empty where
the text ends, the place behind it, and whether it broke the line. -/
structure Gap where
  text : List Char
  cursor : Cursor
  brokeLine : Bool

/-- The breaks of the blank lines that come next, up to a document separator, in
front of which there is no text any more. -/
def blankLines : Nat → Cursor → List Char → Option (List Char) × Cursor
  | 0, cursor, read => (some read, cursor)
  | fuel + 1, cursor, read =>
    let behind := cursor.skipSpaces
    match behind.lineBreak with
    | ([], _) => (some read, behind)
    | (lineBreak, next) =>
      if next.atSeparator then (none, next)
      else blankLines fuel next (read ++ lineBreak)

def gap (cursor : Cursor) : Gap :=
  let behind := cursor.skipSpaces
  match behind.lineBreak with
  | ([], _) => ⟨cursor.rest.takeWhile (· == ' '), behind, false⟩
  | (lineBreak, next) =>
    if next.atSeparator then ⟨[], next, true⟩
    else
      match blankLines next.rest.length next [] with
      | (none, last) => ⟨[], last, true⟩
      | (some breaks, last) => ⟨folded lineBreak breaks, last, true⟩

/-- A plain text, the place behind it, and whether a line was broken there. -/
structure PlainText where
  text : List Char
  cursor : Cursor
  brokeLine : Bool

def Gap.endsText (gap : Gap) (inFlow : Bool) (indent : Int) : Bool :=
  gap.text.isEmpty || gap.cursor.peek? == some '#' ||
    (!inFlow && (gap.cursor.column : Int) ≤ indent)

/-- The plain text from a place on, inside a collection indented by some columns. -/
def plainFrom (inFlow : Bool) (indent : Int) :
    Nat → Cursor → (read pending : List Char) → (brokeLine : Bool) → PlainText
  | 0, cursor, read, _, brokeLine => ⟨read, cursor, brokeLine⟩
  | fuel + 1, cursor, read, pending, brokeLine =>
    let stretch := plainStretch inFlow cursor.rest
    if cursor.peek? == some '#' || stretch.isEmpty then ⟨read, cursor, brokeLine⟩
    else
      let text := read ++ pending ++ stretch
      let next := gap (cursor.skip stretch.length)
      if next.endsText inFlow indent then ⟨text, next.cursor, next.brokeLine⟩
      else plainFrom inFlow indent fuel next.cursor text next.text next.brokeLine

def plainText (inFlow : Bool) (indent : Int) (cursor : Cursor) : PlainText :=
  plainFrom inFlow indent cursor.rest.length cursor [] [] false

/-- Characters that start no plain text. -/
def startsOtherwise (character : Char) : Bool :=
  "-?:,[]\x7b\x7d#&*!|>'\"%@\x60".toList.contains character

def atPlain (inFlow : Bool) (cursor : Cursor) : Bool :=
  match cursor.rest with
  | [] => false
  | character :: rest =>
    !(endsWord (some character) || startsOtherwise character) ||
      (!endsWord rest.head? &&
        (character == '-' || (!inFlow && (character == '?' || character == ':'))))

end Document

end LeaseRoster
