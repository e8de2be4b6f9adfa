import LeaseRoster.Text.Utf8

/-!
# Halves of characters

A character beyond the first 65536 may be written as two halves, each one with a code
of its own.  A half that stands alone is no character, but a text can hold it: it is
kept as a private character of the last plane, `halfShift` codes further on.  Such a
text has no UTF-8 form.

This is a limit of all that is said about texts here.  The private characters that are taken for
halves, U+10D800 to U+10DFFF, are characters as any others and have a UTF-8 form, but a text with
one of them cannot be told from a text with a half.  It is refused wherever that one is.
-/

namespace LeaseRoster

namespace Text

/-- The distance from the code of a half to that of the character that is kept for
it. -/
def halfShift : Nat := 0x100000

def isHalf (code : Nat) : Bool := 0xd800 ≤ code && code < 0xe000

def isFirstHalf (code : Nat) : Bool := 0xd800 ≤ code && code < 0xdc00

def isSecondHalf (code : Nat) : Bool := 0xdc00 ≤ code && code < 0xe000

/-- The character that is kept for a code. -/
def ofCode (code : Nat) : Char :=
  if isHalf code then Char.ofNat (code + halfShift) else Char.ofNat code

/-- Whether a character is kept for a half. -/
def isLoneHalf (character : Char) : Bool :=
  halfShift ≤ character.toNat && isHalf (character.toNat - halfShift)

/-- The code that a character is kept for. -/
def codeOf (character : Char) : Nat :=
  if isLoneHalf character then character.toNat - halfShift else character.toNat

/-- The character that two halves make. -/
def joinHalves (first second : Nat) : Char :=
  Char.ofNat (0x10000 + (first - 0xd800) * 0x400 + (second - 0xdc00))

/-- Whether a text has a UTF-8 form.  The answer is no also for the private characters that are taken
for halves, which have one. -/
def isEncodable (text : List Char) : Bool := !text.any isLoneHalf

/-- A text with replacement characters for each of the three bytes that a lone half
would take. -/
def lossy (text : List Char) : List Char :=
  text.flatMap fun character =>
    if isLoneHalf character then List.replicate 3 replacement else [character]

/-- Whether a lone half stands for a byte in the name of a file. -/
def isNameByte (character : Char) : Bool :=
  isLoneHalf character && 0xdc80 ≤ codeOf character && codeOf character ≤ 0xdcff

/-- Whether a text can be the name of a file. -/
def isNameText (text : List Char) : Bool :=
  text.all fun character => !isLoneHalf character || isNameByte character

/-- The number of bytes that a text takes as the name of a file. -/
def nameWidth (text : List Char) : Nat :=
  text.foldl
    (fun total character =>
      total + if isNameByte character then 1 else utf8Width character) 0

end Text

end LeaseRoster
