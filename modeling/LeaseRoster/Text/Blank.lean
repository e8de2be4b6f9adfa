/-!
# Blanks, words and lines

Texts are lists of characters here.  Blanks and line breaks are those of the
Unicode standard together with the four ASCII separators.  Words are the
maximal blank-free stretches of a text; lines are what stands between line
breaks, where a carriage return and a line feed make one break and a break at
the end of the text opens no further line.
-/

namespace LeaseRoster

namespace Text

/-- Whether a character separates words. -/
def isBlank (character : Char) : Bool :=
  let code := character.toNat
  (0x09 ≤ code && code ≤ 0x0d) || (0x1c ≤ code && code ≤ 0x20) ||
    code == 0x85 || code == 0xa0 || code == 0x1680 ||
    (0x2000 ≤ code && code ≤ 0x200a) || code == 0x2028 || code == 0x2029 ||
    code == 0x202f || code == 0x205f || code == 0x3000

def isLineBreak (character : Char) : Bool :=
  let code := character.toNat
  (0x0a ≤ code && code ≤ 0x0d) || (0x1c ≤ code && code ≤ 0x1e) ||
    code == 0x85 || code == 0x2028 || code == 0x2029

def stripEnd (text : List Char) : List Char :=
  (text.reverse.dropWhile isBlank).reverse

def strip (text : List Char) : List Char := stripEnd (text.dropWhile isBlank)

/-- The pieces between the characters that separate, empty ones included. -/
def pieces (separates : Char → Bool) : List Char → List (List Char)
  | [] => [[]]
  | character :: rest =>
    if separates character then [] :: pieces separates rest
    else
      match pieces separates rest with
      | [] => [[character]]
      | piece :: others => (character :: piece) :: others

/-- The maximal stretches of a text without blanks. -/
def words (text : List Char) : List (List Char) :=
  (pieces isBlank text).filter fun piece => !piece.isEmpty

def consLine (character : Char) : List (List Char) → List (List Char)
  | [] => [[character]]
  | line :: others => (character :: line) :: others

def lines : List Char → List (List Char)
  | [] => []
  | '\r' :: '\n' :: rest => [] :: lines rest
  | character :: rest =>
    if isLineBreak character then [] :: lines rest
    else consLine character (lines rest)

/-- A text in which every carriage return, alone or before a line feed, has
become a line feed. -/
def unifyNewlines : List Char → List Char
  | [] => []
  | '\r' :: '\n' :: rest => '\n' :: unifyNewlines rest
  | character :: rest =>
    (if character == '\r' then '\n' else character) :: unifyNewlines rest

theorem pieces_ne_nil (separates : Char → Bool) (text : List Char) :
    pieces separates text ≠ [] := by
  induction text with
  | nil => simp [pieces]
  | cons character rest ih =>
    unfold pieces
    split
    · simp
    · split <;> simp

/-- A separator cuts the pieces of a text in two. -/
theorem pieces_append_cons (separates : Char → Bool) (before after : List Char)
    {character : Char} (cuts : separates character = true) :
    pieces separates (before ++ character :: after) =
      pieces separates before ++ pieces separates after := by
  induction before with
  | nil => simp [pieces, cuts]
  | cons first rest ih =>
    simp only [List.cons_append, pieces, ih]
    split
    · simp
    · cases opened : pieces separates rest with
      | nil => exact absurd opened (pieces_ne_nil separates rest)
      | cons piece others => simp

/-- A blank cuts the words of a text in two. -/
theorem words_append_cons (before after : List Char) {character : Char}
    (blank : isBlank character = true) :
    words (before ++ character :: after) = words before ++ words after := by
  simp [words, pieces_append_cons isBlank before after blank]

end Text

end LeaseRoster
