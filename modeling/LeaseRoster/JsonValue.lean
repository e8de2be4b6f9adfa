import LeaseRoster.Number.Shortest

/-!
# Published values

Clients and snapshots are published as JSON.  An object keeps its members in the
order in which they are given.  The text is indented by two spaces for every level,
empty lists and objects stay on one line, and characters outside ASCII are kept.
-/

namespace LeaseRoster

/-- A value to be published. -/
inductive JsonValue
  | null
  | flag (value : Bool)
  | integer (value : Int)
  | number (value : Binary64)
  | text (value : String)
  | list (items : List JsonValue)
  | object (members : List (String × JsonValue))
deriving Inhabited

namespace JsonValue

def optionalText : Option String → JsonValue
  | some value => .text value
  | none => .null

def escapedChar (character : Char) : List Char :=
  if character == '"' || character == '\\' then ['\\', character]
  else if character == '\n' then ['\\', 'n']
  else if character == '\r' then ['\\', 'r']
  else if character == '\t' then ['\\', 't']
  else if character.toNat == 0x08 then ['\\', 'b']
  else if character.toNat == 0x0c then ['\\', 'f']
  else if character.toNat < 0x20 then
    '\\' :: 'u' :: Text.hexPadded 4 character.toNat
  else [character]

def quotedText (value : String) : List Char :=
  '"' :: value.toList.flatMap escapedChar ++ ['"']

/-- A number as it stands in a JSON text.  There are words for what has no digits. -/
def numberText : Binary64 → List Char
  | .finite negative units => (Binary64.finite negative units).text
  | .infinite negative => Binary64.withSign negative "Infinity".toList
  | .notANumber => "NaN".toList

def newLine (level : Nat) : List Char := '\n' :: List.replicate (2 * level) ' '

/-- Items on lines of their own between brackets. -/
def bracketed (opening closing : Char) (level : Nat) :
    List (List Char) → List Char
  | [] => [opening, closing]
  | first :: rest =>
    opening :: newLine (level + 1) ++ first ++
      (rest.flatMap fun item => ',' :: newLine (level + 1) ++ item) ++
      newLine level ++ [closing]

mutual

/-- The text of a value whose closing bracket stands at a level. -/
def render (level : Nat) : JsonValue → List Char
  | .null => ['n', 'u', 'l', 'l']
  | .flag true => ['t', 'r', 'u', 'e']
  | .flag false => ['f', 'a', 'l', 's', 'e']
  | .integer value => Text.decimalInt value
  | .number value => numberText value
  | .text value => quotedText value
  | .list items => bracketed '[' ']' level (renderItems (level + 1) items)
  | .object members =>
    bracketed '\x7b' '\x7d' level (renderMembers (level + 1) members)

def renderItems (level : Nat) : List JsonValue → List (List Char)
  | [] => []
  | item :: rest => render level item :: renderItems level rest

def renderMembers (level : Nat) : List (String × JsonValue) → List (List Char)
  | [] => []
  | member :: rest => renderMember level member :: renderMembers level rest

def renderMember (level : Nat) : String × JsonValue → List Char
  | (name, value) => quotedText name ++ ':' :: ' ' :: render level value

end

def fileText (value : JsonValue) : List Char := render 0 value

end JsonValue

end LeaseRoster
