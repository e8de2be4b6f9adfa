import LeaseRoster.Text.Hex

/-!
# Reading bytes as text

Text files hold characters in UTF-8.  A strict reader refuses a file with a
byte that starts no character; a lenient one puts the replacement character in
the place of every longest stretch of bytes that starts a character without
finishing it, or of one byte that starts none.
-/

namespace LeaseRoster

namespace Text

/-- What can follow the first byte of a character: how many bytes are missing,
the bounds of the next one, and the bits read so far. -/
structure Utf8Lead where
  missing : Nat
  least : Nat
  greatest : Nat
  bits : Nat

/-- What a first byte promises, or `none` when it starts no character. -/
def utf8Lead? (byte : Nat) : Option Utf8Lead :=
  if byte < 0x80 then some ⟨0, 0, 0, byte⟩
  else if 0xc2 ≤ byte && byte ≤ 0xdf then some ⟨1, 0x80, 0xbf, byte - 0xc0⟩
  else if byte == 0xe0 then some ⟨2, 0xa0, 0xbf, 0⟩
  else if byte == 0xed then some ⟨2, 0x80, 0x9f, 0xd⟩
  else if 0xe1 ≤ byte && byte ≤ 0xef then some ⟨2, 0x80, 0xbf, byte - 0xe0⟩
  else if byte == 0xf0 then some ⟨3, 0x90, 0xbf, 0⟩
  else if 0xf1 ≤ byte && byte ≤ 0xf3 then some ⟨3, 0x80, 0xbf, byte - 0xf0⟩
  else if byte == 0xf4 then some ⟨3, 0x80, 0x8f, 4⟩
  else none

/-- The reader's state between two bytes: nothing pending, or a character of
which some bytes are still missing. -/
inductive Utf8State
  | between
  | within (lead : Utf8Lead)

/-- One byte read from the state between characters: the character it is, or
the state it leads to, or `none`. -/
def utf8Start (byte : Nat) : Option (Option Char × Utf8State) :=
  (utf8Lead? byte).map fun lead =>
    if lead.missing == 0 then (some (Char.ofNat lead.bits), .between)
    else (none, .within lead)

/-- One byte read inside a character, or `none` when it does not continue it. -/
def utf8Continue (lead : Utf8Lead) (byte : Nat) :
    Option (Option Char × Utf8State) :=
  if lead.least ≤ byte && byte ≤ lead.greatest then
    let bits := lead.bits * 0x40 + (byte - 0x80)
    if lead.missing ≤ 1 then some (some (Char.ofNat bits), .between)
    else some (none, .within ⟨lead.missing - 1, 0x80, 0xbf, bits⟩)
  else none

/-- The character that stands for bytes that are not text. -/
def replacement : Char := Char.ofNat 0xfffd

/-- The characters of a list of bytes, with a replacement character where the
bytes are no text. -/
def utf8Lenient : Utf8State → List UInt8 → List Char
  | .between, [] => []
  | .within _, [] => [replacement]
  | .between, byte :: rest =>
    match utf8Start byte.toNat with
    | some (read, state) => read.toList ++ utf8Lenient state rest
    | none => replacement :: utf8Lenient .between rest
  | .within lead, byte :: rest =>
    match utf8Continue lead byte.toNat with
    | some (read, state) => read.toList ++ utf8Lenient state rest
    | none =>
      match utf8Start byte.toNat with
      | some (read, state) =>
        replacement :: read.toList ++ utf8Lenient state rest
      | none => replacement :: replacement :: utf8Lenient .between rest

/-- The characters of a list of bytes, if all of it is text. -/
def utf8Strict : Utf8State → List UInt8 → Option (List Char)
  | .between, [] => some []
  | .within _, [] => none
  | .between, byte :: rest =>
    match utf8Start byte.toNat with
    | some (read, state) => (utf8Strict state rest).map (read.toList ++ ·)
    | none => none
  | .within lead, byte :: rest =>
    match utf8Continue lead byte.toNat with
    | some (read, state) => (utf8Strict state rest).map (read.toList ++ ·)
    | none => none

/-- The text of a file, with replacement characters for what is no text. -/
def decodeLenient (bytes : List UInt8) : List Char :=
  utf8Lenient .between bytes

/-- The text of a file, or `none` when some of it is no text. -/
def decodeStrict (bytes : List UInt8) : Option (List Char) :=
  utf8Strict .between bytes

def utf8Width (character : Char) : Nat :=
  let code := character.toNat
  if code < 0x80 then 1
  else if code < 0x800 then 2
  else if code < 0x10000 then 3
  else 4

end Text

end LeaseRoster
