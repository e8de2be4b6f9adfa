import LeaseRoster.Document.Cursor
import LeaseRoster.Text.Half
import LeaseRoster.Text.Hex

/-!
# Quoted texts in a document

A text between single quotes holds a quote written twice; one between double quotes
knows escapes.  Both may run over several lines, which are folded, but not over the
end of the document.
-/

namespace LeaseRoster

namespace Document

/-- The character that a letter behind a backslash stands for. -/
def escapeValue? (letter : Char) : Option Char :=
  match letter with
  | '0' => some (Char.ofNat 0x00)
  | 'a' => some (Char.ofNat 0x07)
  | 'b' => some (Char.ofNat 0x08)
  | 't' => some '\t'
  | '\t' => some '\t'
  | 'n' => some '\n'
  | 'v' => some (Char.ofNat 0x0b)
  | 'f' => some (Char.ofNat 0x0c)
  | 'r' => some '\r'
  | 'e' => some (Char.ofNat 0x1b)
  | ' ' => some ' '
  | '"' => some '"'
  | '\\' => some '\\'
  | '/' => some '/'
  | 'N' => some (Char.ofNat 0x85)
  | '_' => some (Char.ofNat 0xa0)
  | 'L' => some (Char.ofNat 0x2028)
  | 'P' => some (Char.ofNat 0x2029)
  | _ => none

/-- The number of hexadecimal digits behind a letter that announces a code. -/
def codeWidth? (letter : Char) : Option Nat :=
  if letter == 'x' then some 2
  else if letter == 'u' then some 4
  else if letter == 'U' then some 8
  else none

/-- The character with a code, or the one that is kept for it. -/
def charOfCode (code : Nat) : Except Fault Char :=
  if 0x7fffffff < code then .error .beyondRange
  else if 0x10ffff < code then .error (.value .unprintableCharacter)
  else .ok (Text.ofCode code)

/-- The breaks of the blank lines inside a quoted text, and the place behind the
blanks of the next line. -/
def quotedBreaks : Nat → Cursor → List Char → Except Fault (List Char × Cursor)
  | 0, cursor, read => .ok (read, cursor)
  | fuel + 1, cursor, read =>
    if cursor.atSeparator then .error (.document .brokenText)
    else
      let behind := cursor.skipWhile isSpace
      match behind.lineBreak with
      | ([], _) => .ok (read, behind)
      | (lineBreak, next) => quotedBreaks fuel next (read ++ lineBreak)

def breaksFrom (cursor : Cursor) : Except Fault (List Char × Cursor) :=
  quotedBreaks (cursor.rest.length + 1) cursor []

/-- What the blanks and breaks that come next inside a quoted text stand for, and the
place behind them. -/
def quotedBlanks (cursor : Cursor) : Except Fault (List Char × Cursor) :=
  let behind := cursor.skipWhile isSpace
  match behind.lineBreak with
  | ([], _) =>
    if behind.peek?.isNone then .error (.document .unclosedText)
    else .ok (cursor.rest.takeWhile isSpace, behind)
  | (lineBreak, next) => do
    let (breaks, last) ← breaksFrom next
    return (folded lineBreak breaks, last)

/-- What an escape stands for, from the place behind its backslash on. -/
def escape (cursor : Cursor) : Except Fault (List Char × Cursor) :=
  match cursor.rest with
  | [] => .error (.document .unknownEscape)
  | letter :: rest =>
    match escapeValue? letter, codeWidth? letter with
    | some character, _ => .ok ([character], cursor.step)
    | none, some width =>
      match Text.hexNumber? (rest.take width) with
      | none => .error (.document .unknownEscape)
      | some code =>
        if rest.length < width then .error (.document .unknownEscape)
        else do
          let character ← charOfCode code
          return ([character], cursor.skip (width + 1))
    | none, none =>
      if isBreak letter then breaksFrom cursor.lineBreak.2
      else .error (.document .unknownEscape)

/-- The rest of a quoted text, from a place inside it on. -/
def quotedFrom (isDouble : Bool) :
    Nat → Cursor → List Char → Except Fault (List Char × Cursor)
  | 0, _, _ => .error (.document .unclosedText)
  | fuel + 1, cursor, read =>
    match cursor.rest with
    | [] => .error (.document .unclosedText)
    | '\'' :: rest =>
      if isDouble then quotedFrom isDouble fuel cursor.step (read ++ ['\''])
      else if rest.head? == some '\'' then
        quotedFrom isDouble fuel (cursor.skip 2) (read ++ ['\''])
      else .ok (read, cursor.step)
    | '"' :: _ =>
      if isDouble then .ok (read, cursor.step)
      else quotedFrom isDouble fuel cursor.step (read ++ ['"'])
    | character :: _ =>
      if isDouble && character == '\\' then do
        let (text, next) ← escape cursor.step
        quotedFrom isDouble fuel next (read ++ text)
      else if isSpace character || isBreak character then do
        let (text, next) ← quotedBlanks cursor
        quotedFrom isDouble fuel next (read ++ text)
      else quotedFrom isDouble fuel cursor.step (read ++ [character])

def quotedText (cursor : Cursor) : Except Fault (List Char × Cursor) :=
  quotedFrom (cursor.peek? == some '"') cursor.rest.length cursor.step []

end Document

end LeaseRoster
