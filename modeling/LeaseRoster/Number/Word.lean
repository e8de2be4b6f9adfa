/-!
# Signed words

A signed word of 64 bits holds the integers from `-wordLimit` up to, but without,
`wordLimit`.
-/

namespace LeaseRoster

def wordLimit : Int := 9223372036854775808

def fitsWord (value : Int) : Bool := -wordLimit ≤ value && value < wordLimit

theorem fitsWord_iff (value : Int) :
    fitsWord value = true ↔ -wordLimit ≤ value ∧ value < wordLimit := by
  simp [fitsWord]

end LeaseRoster
