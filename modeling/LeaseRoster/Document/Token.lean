import LeaseRoster.Document.Cursor
import LeaseRoster.Text.Hex
import LeaseRoster.Text.Utf8
import LeaseRoster.Text.Whole

/-!
# Tokens of a document

A document is a sequence of tokens.  Some stand for characters of the text; the start
and the end of a block collection and the start of a key show only in its
indentation.  Where the text goes wrong, the tokens end with the fault.
-/

namespace LeaseRoster

namespace Document

/-- A directive in front of a document. -/
inductive Directive
  | version (major : Int)
  | handle (handle meaning : String)
  | other
deriving DecidableEq

/-- A token of a document. -/
inductive Token
  | directive (directive : Directive)
  | documentStart
  | documentEnd
  | listStart
  | mappingStart
  | blockEnd
  | flowListStart
  | flowListEnd
  | flowMappingStart
  | flowMappingEnd
  | entry
  | flowEntry
  | key
  | value
  | reference (name : String)
  | anchor (name : String)
  | tag (handle : Option String) (suffix : String)
  | scalar (text : List Char) (isPlain : Bool)
  | streamEnd
  | broken (fault : Fault)
deriving DecidableEq

/-! ## Names -/

def endsName (next : Option Char) : Bool :=
  endsWord next || next.any fun character =>
    "?:,]\x7d%@\x60".toList.contains character

/-- The name of an anchor or alias, from the place of its mark on, and the place behind
it. -/
def nameAt (cursor : Cursor) : Except Fault (String × Cursor) :=
  let name := cursor.step.rest.takeWhile isNameChar
  let behind := cursor.step.skip name.length
  if name.isEmpty || !endsName behind.peek? then .error (.document .malformedName)
  else .ok (String.ofList name, behind)

/-! ## Tags -/

def isTagChar (character : Char) : Bool :=
  character.isAlphanum || "-;/?:@&=+$,_.!~*'()[]%".toList.contains character

/-- The bytes of a run of escapes, each a percent sign and two hexadecimal digits, and
what follows them. -/
def percentBytes : List Char → Except Fault (List UInt8 × List Char)
  | '%' :: high :: low :: rest =>
    match Text.hexNumber? [high, low] with
    | some value => do
      let (bytes, behind) ← percentBytes rest
      return (UInt8.ofNat value :: bytes, behind)
    | none => .error (.document .malformedTag)
  | '%' :: _ => .error (.document .malformedTag)
  | text => .ok ([], text)

/-- The characters of a tag with its escapes resolved.  The escapes that stand side by
side are one text. -/
def resolveEscapes : Nat → List Char → Except Fault (List Char)
  | 0, _ => .ok []
  | _ + 1, [] => .ok []
  | fuel + 1, '%' :: rest => do
    let (bytes, behind) ← percentBytes ('%' :: rest)
    match Text.decodeStrict bytes with
    | some text => return text ++ (← resolveEscapes fuel behind)
    | none => .error (.document .malformedTag)
  | fuel + 1, character :: rest => do
    return character :: (← resolveEscapes fuel rest)

/-- The part of a tag that comes next, and the place behind it. -/
def tagPart (cursor : Cursor) : Except Fault (String × Cursor) :=
  let part := cursor.rest.takeWhile isTagChar
  if part.isEmpty then .error (.document .malformedTag)
  else do
    let text ← resolveEscapes part.length part
    return (String.ofList text, cursor.skip part.length)

/-- The handle that comes next: an exclamation mark, or a name between two of them. -/
def handleAt (cursor : Cursor) : Except Fault (String × Cursor) :=
  match cursor.rest with
  | '!' :: ' ' :: _ => .ok ("!", cursor.step)
  | '!' :: rest =>
    let name := rest.takeWhile isNameChar
    if (rest.drop name.length).head? == some '!' then
      .ok (String.ofList ('!' :: name ++ ['!']), cursor.skip (name.length + 2))
    else .error (.document .malformedTag)
  | _ => .error (.document .malformedTag)

/-- Whether a second exclamation mark makes the front of a tag a handle. -/
def hasHandle (cursor : Cursor) : Bool :=
  (cursor.step.rest.takeWhile fun character => !endsField (some character)).contains '!'

/-- The handle and the suffix of the tag at a place, and the place behind it. -/
def tagParts (cursor : Cursor) : Except Fault ((Option String × String) × Cursor) :=
  match cursor.step.peek? with
  | some '<' => do
    let (suffix, behind) ← tagPart (cursor.skip 2)
    if behind.peek? == some '>' then return ((none, suffix), behind.step)
    else throw (.document .malformedTag)
  | next =>
    if endsWord next then .ok ((none, "!"), cursor.step)
    else if hasHandle cursor then do
      let (handle, start) ← handleAt cursor
      let (suffix, behind) ← tagPart start
      return ((some handle, suffix), behind)
    else do
      let (suffix, behind) ← tagPart cursor.step
      return ((some "!", suffix), behind)

def tagAt (cursor : Cursor) : Except Fault (Token × Cursor) := do
  let ((handle, suffix), behind) ← tagParts cursor
  if endsField behind.peek? then return (.tag handle suffix, behind)
  else throw (.document .malformedTag)

/-! ## Directives -/

def versionNumber (cursor : Cursor) : Except Fault (Int × Cursor) :=
  let digits := cursor.rest.takeWhile Text.isAsciiDigit
  if digits.isEmpty then .error (.document .malformedDirective)
  else
    match Text.readInt digits with
    | .ok number => .ok (number, cursor.skip digits.length)
    | .error fault => .error (.value (.numeral fault))

def versionAt (cursor : Cursor) : Except Fault (Directive × Cursor) := do
  let (major, behind) ← versionNumber cursor.skipSpaces
  if behind.peek? != some '.' then throw (.document .malformedDirective)
  let (_, last) ← versionNumber behind.step
  if endsField last.peek? then return (.version major, last)
  else throw (.document .malformedDirective)

def declarationAt (cursor : Cursor) : Except Fault (Directive × Cursor) := do
  let (handle, behind) ← handleAt cursor.skipSpaces
  if behind.peek? != some ' ' then throw (.document .malformedDirective)
  let (meaning, last) ← tagPart behind.skipSpaces
  if endsField last.peek? then return (.handle handle meaning, last)
  else throw (.document .malformedDirective)

/-- What a directive with a name says; others than the two known ones are passed
over. -/
def directiveValue (name : List Char) (cursor : Cursor) :
    Except Fault (Directive × Cursor) :=
  if name == "YAML".toList then versionAt cursor
  else if name == "TAG".toList then declarationAt cursor
  else .ok (.other, cursor.skipWhile fun character => !isBreak character)

/-- The directive at a place, and the start of the next line. -/
def directiveAt (cursor : Cursor) : Except Fault (Token × Cursor) := do
  let name := cursor.step.rest.takeWhile isNameChar
  let behind := cursor.step.skip name.length
  if name.isEmpty || !endsField behind.peek? then
    throw (.document .malformedDirective)
  let (directive, last) ← directiveValue name behind
  match last.endLine? with
  | some next => return (.directive directive, next)
  | none => throw (.document .malformedDirective)

end Document

end LeaseRoster
