import LeaseRoster.Datum
import LeaseRoster.JsonValue
import LeaseRoster.Number.Numeral
import LeaseRoster.Text.Half

/-!
# JSON texts

Reading a JSON text goes through its tokens: brackets, commas, colons, texts and
bare words.  The tokens are found character by character; the value is then read off
them.  A number without a point and an exponent is an integer of any size; there are
words for the infinite numbers and for no number.  Writing puts a value on one line
and escapes every character outside ASCII.
-/

namespace LeaseRoster

namespace JsonText

/-! ## Tokens -/

/-- A token of a JSON text. -/
inductive Token
  | openList
  | closeList
  | openObject
  | closeObject
  | comma
  | colon
  | text (value : String)
  | word (characters : List Char)
deriving DecidableEq

/-- Where the search for tokens stands: inside a bare word, which may be empty, or
inside a text, perhaps behind a backslash or among the digits of an escape.
Characters and codes are kept in reverse. -/
inductive Place
  | outside (word : List Char)
  | inside (codes : List Nat)
  | escaping (codes : List Nat)
  | digits (codes : List Nat) (read : List Char)

/-- The tokens found so far, in reverse, and the place reached. -/
structure Scan where
  tokens : List Token
  place : Place

def mark? (character : Char) : Option Token :=
  if character == '[' then some .openList
  else if character == ']' then some .closeList
  else if character == '\x7b' then some .openObject
  else if character == '\x7d' then some .closeObject
  else if character == ',' then some .comma
  else if character == ':' then some .colon
  else none

/-- Whether a character is a blank between tokens. -/
def isBlank (character : Char) : Bool :=
  character == ' ' || character == '\t' || character == '\n' || character == '\r'

def escapedCode (character : Char) : Nat :=
  if character == 'n' then 0x0a
  else if character == 't' then 0x09
  else if character == 'r' then 0x0d
  else if character == 'b' then 0x08
  else if character == 'f' then 0x0c
  else character.toNat

/-- The characters of a sequence of codes, in which a character beyond the first 65536
may be written as two halves. -/
def charactersOf : List Nat → List Char
  | [] => []
  | [code] => [Text.ofCode code]
  | code :: next :: rest =>
    if Text.isFirstHalf code && Text.isSecondHalf next then
      Text.joinHalves code next :: charactersOf rest
    else Text.ofCode code :: charactersOf (next :: rest)

def endWord (tokens : List Token) (word : List Char) : List Token :=
  if word.isEmpty then tokens else .word word.reverse :: tokens

/-- The search for tokens after one more character. -/
def Scan.next (scan : Scan) (character : Char) : Scan :=
  match scan.place with
  | .outside word =>
    let ended := endWord scan.tokens word
    if character == '"' then ⟨ended, .inside []⟩
    else if isBlank character then ⟨ended, .outside []⟩
    else
      match mark? character with
      | some mark => ⟨mark :: ended, .outside []⟩
      | none => ⟨scan.tokens, .outside (character :: word)⟩
  | .inside codes =>
    if character == '"' then
      ⟨.text (String.ofList (charactersOf codes.reverse)) :: scan.tokens, .outside []⟩
    else if character == '\\' then ⟨scan.tokens, .escaping codes⟩
    else ⟨scan.tokens, .inside (character.toNat :: codes)⟩
  | .escaping codes =>
    if character == 'u' then ⟨scan.tokens, .digits codes []⟩
    else ⟨scan.tokens, .inside (escapedCode character :: codes)⟩
  | .digits codes read =>
    if read.length < 3 then ⟨scan.tokens, .digits codes (character :: read)⟩
    else
      let code := (Text.hexNumber? (character :: read).reverse).getD 0xfffd
      ⟨scan.tokens, .inside (code :: codes)⟩

/-- The tokens of a text, unless it ends inside a text of its own. -/
def tokens? (text : List Char) : Option (List Token) :=
  let scan := text.foldl Scan.next ⟨[], .outside []⟩
  match scan.place with
  | .outside word => some (endWord scan.tokens word).reverse
  | _ => none

/-! ## Values -/

/-- Whether a character makes a number more than an integer. -/
def isFractionMark (character : Char) : Bool :=
  character == '.' || character == 'e' || character == 'E'

def wordValue? (word : List Char) : Option Datum :=
  if word == "null".toList then some .null
  else if word == "true".toList then some (.flag true)
  else if word == "false".toList then some (.flag false)
  else if word == "NaN".toList then some (.real .notANumber)
  else if word == "Infinity".toList then some (.real (.infinite false))
  else if word == "-Infinity".toList then some (.real (.infinite true))
  else if word.any isFractionMark then (Numeral.readPlain? word).map Datum.real
  else
    let (negative, digits) := Text.splitSign word
    if digits.isEmpty || !digits.all Text.isAsciiDigit then none
    else some (.whole (Text.signed negative (Numeral.digitsValue digits)))

/-- An object of some members, of which the last one under a key counts. -/
def ofMembers (members : List (String × Datum)) : Datum :=
  .mapping (members.foldl
    (fun entries member => Datum.setEntry member.1 member.2 entries) [])

mutual

/-- The value at the front of some tokens, and the tokens behind it. -/
def value? : Nat → List Token → Option (Datum × List Token)
  | 0, _ => none
  | _ + 1, .text value :: rest => some (.text value, rest)
  | _ + 1, .word word :: rest => (wordValue? word).map (·, rest)
  | _ + 1, .openList :: .closeList :: rest => some (.list [], rest)
  | fuel + 1, .openList :: rest =>
    (items? fuel rest).map fun (items, after) => (.list items, after)
  | _ + 1, .openObject :: .closeObject :: rest => some (.mapping [], rest)
  | fuel + 1, .openObject :: rest =>
    (members? fuel rest).map fun (members, after) => (ofMembers members, after)
  | _, _ => none

/-- The items of a list up to its closing bracket, and the tokens behind it. -/
def items? : Nat → List Token → Option (List Datum × List Token)
  | 0, _ => none
  | fuel + 1, tokens =>
    match value? fuel tokens with
    | some (item, .closeList :: after) => some ([item], after)
    | some (item, .comma :: after) =>
      (items? fuel after).map fun (items, rest) => (item :: items, rest)
    | _ => none

/-- The members of an object up to its closing bracket, and the tokens behind it. -/
def members? : Nat → List Token → Option (List (String × Datum) × List Token)
  | 0, _ => none
  | fuel + 1, .text name :: .colon :: tokens =>
    match value? fuel tokens with
    | some (value, .closeObject :: after) => some ([(name, value)], after)
    | some (value, .comma :: after) =>
      (members? fuel after).map fun (members, rest) => ((name, value) :: members, rest)
    | _ => none
  | _ + 1, _ => none

end

/-- The value that a text denotes as a whole. -/
def read? (text : List Char) : Option Datum := do
  let tokens ← tokens? text
  match value? (2 * tokens.length + 1) tokens with
  | some (value, []) => some value
  | _ => none

/-! ## Publishing values of documents -/

mutual

/-- A value of a document as published; what JSON has no kind for is written out. -/
def ofDatum : Datum → JsonValue
  | .null => .null
  | .flag value => .flag value
  | .whole value => .integer value
  | .real value => .number value
  | .text value => .text value
  | .list items => .list (ofItems items)
  | .mapping entries => .object (ofEntries entries)
  | other => .text other.shownText

def ofItems : List Datum → List JsonValue
  | [] => []
  | item :: rest => ofDatum item :: ofItems rest

def ofEntries : List (Datum × Datum) → List (String × JsonValue)
  | [] => []
  | entry :: rest => ofEntry entry :: ofEntries rest

def ofEntry : Datum × Datum → String × JsonValue
  | (key, value) => (String.ofList key.plain, ofDatum value)

end

/-! ## Writing on one line -/

/-- One half of a character, or a whole one, as an escape. -/
def unit (code : Nat) : List Char := '\\' :: 'u' :: Text.hexPadded 4 code

/-- A character of a quoted text in ASCII alone. -/
def asciiChar (character : Char) : List Char :=
  let code := Text.codeOf character
  if code < 0x7f then [character]
  else if code < 0x10000 then unit code
  else
    unit (0xd800 + (code - 0x10000) / 0x400) ++ unit (0xdc00 + (code - 0x10000) % 0x400)

/-- A text between double quotes, in ASCII alone. -/
def asciiText (value : String) : List Char :=
  (JsonValue.quotedText value).flatMap asciiChar

def joined (opening closing : Char) (items : List (List Char)) : List Char :=
  opening :: List.intercalate [','] items ++ [closing]

mutual

def line : JsonValue → List Char
  | .null => "null".toList
  | .flag value => (if value then "true" else "false").toList
  | .integer value => Text.decimalInt value
  | .number value => JsonValue.numberText value
  | .text value => asciiText value
  | .list items => joined '[' ']' (lineItems items)
  | .object members => joined '\x7b' '\x7d' (lineMembers members)

def lineItems : List JsonValue → List (List Char)
  | [] => []
  | item :: rest => line item :: lineItems rest

/-- The members of an object, each on the line. -/
def lineMembers : List (String × JsonValue) → List (List Char)
  | [] => []
  | member :: rest => lineMember member :: lineMembers rest

def lineMember : String × JsonValue → List Char
  | (name, value) => asciiText name ++ ':' :: line value

end

end JsonText

end LeaseRoster
