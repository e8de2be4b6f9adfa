import LeaseRoster.Fault
import LeaseRoster.Text.Digit

/-!
# Link templates

A template is a text with placeholders: a dollar sign and a name, or a dollar
sign and a name in braces.  Two dollar signs stand for one.  A template is
checked once, when it is read.  Rendering goes over its source in a single
pass, so nothing that is filled in is ever taken for a placeholder.
-/

namespace LeaseRoster

namespace Template

def isNameStart (character : Char) : Bool :=
  Text.isAsciiLetter character || character == '_'

/-- Whether a character may continue the name of a placeholder. -/
def isNamePart (character : Char) : Bool :=
  isNameStart character || Text.isAsciiDigit character

/-- A part of a template: a character of its text, a placeholder, or a dollar sign
that belongs to neither. -/
inductive Part
  | literal (character : Char)
  | placeholder (name : List Char)
  | stray
deriving DecidableEq, Repr

/-- The name at the front of a text, as long as possible; empty if there is none. -/
def leadingName : List Char → List Char
  | [] => []
  | first :: rest =>
    if isNameStart first then first :: rest.takeWhile isNamePart else []

/-- What a dollar sign makes with the text behind it, and how much of that text
belongs to it. -/
def partBehind : List Char → Part × Nat
  | '$' :: _ => (.literal '$', 1)
  | '\x7b' :: inner =>
    let name := leadingName inner
    if name.isEmpty || (inner.drop name.length).head? != some '\x7d' then (.stray, 0)
    else (.placeholder name, name.length + 2)
  | text =>
    let name := leadingName text
    if name.isEmpty then (.stray, 0) else (.placeholder name, name.length)

/-- The parts of a text of which the first characters, `taken` of them, belong to a
part in front of it. -/
def partsFrom : Nat → List Char → List Part
  | _, [] => []
  | taken + 1, _ :: rest => partsFrom taken rest
  | 0, character :: rest =>
    if character == '$' then
      (partBehind rest).1 :: partsFrom (partBehind rest).2 rest
    else .literal character :: partsFrom 0 rest

def parts (source : List Char) : List Part := partsFrom 0 source

/-- Whether every dollar sign of a template has a meaning. -/
def isValid (source : List Char) : Bool := !(parts source).contains .stray

/-- The text of some parts under given values.  The first part without one decides. -/
def render (values : List Char → Option (List Char)) :
    List Part → Except Fault (List Char)
  | [] => .ok []
  | .literal character :: rest => (render values rest).map (character :: ·)
  | .placeholder name :: rest =>
    match values name with
    | some value => (render values rest).map (value ++ ·)
    | none => .error .missingKey
  | .stray :: _ => .error (.value .strayDollar)

end Template

/-- A link template that has been checked. -/
structure LinkTemplate where
  source : String
  valid : Template.isValid source.toList = true
deriving DecidableEq

namespace LinkTemplate

/-- The template with a given source, if it is valid. -/
def ofSource? (source : String) : Option LinkTemplate :=
  if valid : Template.isValid source.toList = true then some ⟨source, valid⟩ else none

/-- The text of a template under given values.  The source is gone over again. -/
def render (template : LinkTemplate) (values : List Char → Option (List Char)) :
    Except Fault (List Char) :=
  Template.render values (Template.parts template.source.toList)

end LinkTemplate

end LeaseRoster
