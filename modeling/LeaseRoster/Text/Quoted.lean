import LeaseRoster.Text.Half
import LeaseRoster.Text.Hex
import LeaseRoster.Text.Printable

/-!
# Quoted texts

Messages show a text between quotes: single ones, or double ones when the text
holds a single quote and no double one.  The quote and the backslash are
escaped, and so is every character that is not printable.
-/

namespace LeaseRoster

namespace Text

def quoteFor (text : List Char) : Char :=
  if text.contains '\'' && !text.contains '"' then '"' else '\''

def quotedChar (quote character : Char) : List Char :=
  if character == quote || character == '\\' then ['\\', character]
  else if character == '\n' then ['\\', 'n']
  else if character == '\r' then ['\\', 'r']
  else if character == '\t' then ['\\', 't']
  else if isPrintable character then [character]
  else
    let code := codeOf character
    if code < 0x100 then '\\' :: 'x' :: hexPadded 2 code
    else if code < 0x10000 then '\\' :: 'u' :: hexPadded 4 code
    else '\\' :: 'U' :: hexPadded 8 code

def quoted (text : List Char) : List Char :=
  let quote := quoteFor text
  quote :: text.flatMap (quotedChar quote) ++ [quote]

def quotedByte (quote : Char) (byte : UInt8) : List Char :=
  let character := Char.ofNat byte.toNat
  if character == quote || character == '\\' then ['\\', character]
  else if character == '\n' then ['\\', 'n']
  else if character == '\r' then ['\\', 'r']
  else if character == '\t' then ['\\', 't']
  else if 0x20 ≤ byte.toNat && byte.toNat < 0x7f then [character]
  else '\\' :: 'x' :: hexPadded 2 byte.toNat

/-- Bytes between quotes, marked as such. -/
def quotedBytes (bytes : List UInt8) : List Char :=
  let quote := quoteFor (bytes.map fun byte => Char.ofNat byte.toNat)
  'b' :: quote :: bytes.flatMap (quotedByte quote) ++ [quote]

end Text

end LeaseRoster
