/-!
# Sets of characters as code point ranges

A property of characters that a standard lists is kept as a list of closed
intervals of code points.  Membership scans the list, so a table can be read
against the standard line by line.
-/

namespace LeaseRoster

namespace Text

/-- Closed intervals of code points, each given by its first and last one. -/
abbrev CodeRanges := List (Nat × Nat)

/-- Whether the code point of a character lies in one of the intervals. -/
def CodeRanges.contains (ranges : CodeRanges) (character : Char) : Bool :=
  ranges.any fun (first, last) =>
    first ≤ character.toNat && character.toNat ≤ last

theorem CodeRanges.contains_iff (ranges : CodeRanges) (character : Char) :
    ranges.contains character = true ↔
      ∃ range ∈ ranges, range.1 ≤ character.toNat ∧
        character.toNat ≤ range.2 := by
  simp [CodeRanges.contains]

end Text

end LeaseRoster
