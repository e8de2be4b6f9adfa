import LeaseRoster.Fault

/-!
# Places in a document

The text of a document is read from a cursor, which knows the rest of the text, the
number of the present line, and the columns and characters in front of it.  Line
breaks are unified before, so that a carriage return never stands for one; a mark of
the byte order takes no column.
-/

namespace LeaseRoster

namespace Document

def isBreak (character : Char) : Bool :=
  character == '\n' || character.toNat == 0x85 || character.toNat == 0x2028 ||
    character.toNat == 0x2029

/-- Whether a character is a space or a tab. -/
def isSpace (character : Char) : Bool := character == ' ' || character == '\t'

def endsLine : Option Char → Bool
  | none => true
  | some character => isBreak character

/-- Whether a field ends at what comes next: a space or the end of the line. -/
def endsField : Option Char → Bool
  | none => true
  | some character => character == ' ' || isBreak character

/-- Whether a word ends at what comes next: a blank or the end of the line. -/
def endsWord : Option Char → Bool
  | none => true
  | some character => isSpace character || isBreak character

/-- Whether a character can stand in a name: an ASCII letter or digit, a hyphen or an
underscore. -/
def isNameChar (character : Char) : Bool :=
  character.isAlphanum || character == '-' || character == '_'

def isOrderMark (character : Char) : Bool := character.toNat == 0xfeff

/-- A place in a document. -/
structure Cursor where
  rest : List Char
  index : Nat
  line : Nat
  column : Nat

namespace Cursor

def start (text : List Char) : Cursor := ⟨text, 0, 0, 0⟩

def peek? (cursor : Cursor) : Option Char := cursor.rest.head?

def step (cursor : Cursor) : Cursor :=
  match cursor.rest with
  | [] => cursor
  | character :: rest =>
    if isBreak character then ⟨rest, cursor.index + 1, cursor.line + 1, 0⟩
    else if isOrderMark character then
      ⟨rest, cursor.index + 1, cursor.line, cursor.column⟩
    else ⟨rest, cursor.index + 1, cursor.line, cursor.column + 1⟩

def skip : Nat → Cursor → Cursor
  | 0, cursor => cursor
  | count + 1, cursor => skip count cursor.step

def skipWhile (accepts : Char → Bool) (cursor : Cursor) : Cursor :=
  cursor.skip (cursor.rest.takeWhile accepts).length

def skipSpaces (cursor : Cursor) : Cursor := cursor.skipWhile (· == ' ')

def skipComment (cursor : Cursor) : Cursor :=
  if cursor.peek? == some '#' then cursor.skipWhile fun character => !isBreak character
  else cursor

/-- The text that a line break stands for, empty if none comes next, and the place
behind it.  Only the separators of lines and paragraphs stand for themselves. -/
def lineBreak (cursor : Cursor) : List Char × Cursor :=
  match cursor.peek? with
  | none => ([], cursor)
  | some character =>
    if character == '\n' || character.toNat == 0x85 then (['\n'], cursor.step)
    else if isBreak character then ([character], cursor.step)
    else ([], cursor)

def startsWith (mark : List Char) (cursor : Cursor) : Bool :=
  cursor.rest.take mark.length == mark && endsWord (cursor.rest.drop mark.length).head?

def atDocumentStart (cursor : Cursor) : Bool := cursor.startsWith ['-', '-', '-']

def atDocumentEnd (cursor : Cursor) : Bool := cursor.startsWith ['.', '.', '.']

/-- Whether the start or the end of a document comes next. -/
def atSeparator (cursor : Cursor) : Bool :=
  cursor.atDocumentStart || cursor.atDocumentEnd

/-- The place behind the spaces, the comment and the break with which a line ends, if
nothing else comes next. -/
def endLine? (cursor : Cursor) : Option Cursor :=
  let behind := cursor.skipSpaces.skipComment
  if endsLine behind.peek? then some behind.lineBreak.2 else none

@[simp] theorem rest_start (text : List Char) : (start text).rest = text := rfl

end Cursor

/-- The line break of a folded text: a single one is a space, and further ones take
the place of the first unless it separates lines or paragraphs. -/
def folded (first breaks : List Char) : List Char :=
  if first != ['\n'] then first ++ breaks
  else if breaks.isEmpty then [' ']
  else breaks

end Document

end LeaseRoster
