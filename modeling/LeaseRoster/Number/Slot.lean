import LeaseRoster.Number.Binary64

/-!
# The order of numbers in a set

A set lists its numbers in the order of the slots in which it keeps them.  A number has
a residue modulo a prime, which is the same for every way to write the number.  The
residue names the slot at which the search for a free one starts; slots next to it are
tried first where the set is large enough, and then others, step by step.
-/

namespace LeaseRoster

namespace Slot

/-- The prime modulo which numbers have residues. -/
def prime : Nat := Nat.pow 2 61 - 1

def wordSize : Nat := Nat.pow 2 64

/-- The residue of a number of some sign as a word; minus one gives way to minus two. -/
def wordOf (negative : Bool) (residue : Nat) : Nat :=
  if !negative || residue == 0 then residue
  else if residue == 1 then wordSize - 2
  else wordSize - residue

def ofInt (value : Int) : Nat := wordOf (value < 0) (value.natAbs % prime)

/-- The word of a floating-point number, if it has one.  Two to the power of 61 has the
residue one, so a power of one half has that of a power of two. -/
def ofBinary64? : Binary64 → Option Nat
  | .finite negative units =>
    let halves := 61 - Binary64.unitExponent % 61
    some (wordOf negative (units % prime * Nat.pow 2 halves % prime))
  | .infinite negative => some (wordOf negative 314159)
  | .notANumber => none

def leastSize : Nat := 8

/-- The number of slots for some numbers: a power of two. -/
def sizeFor : Nat → Nat → Nat → Nat
  | 0, _, size => size
  | bound + 1, least, size => if size ≤ least then sizeFor bound least (2 * size) else size

/-- The number of slots of a set that is made of some numbers at once. -/
def tableSize (count : Nat) : Nat :=
  if count * 5 < (leastSize - 1) * 3 then leastSize
  else sizeFor (2 * count) (2 * count) leastSize

/-- The number of further slots that are tried next to one. -/
def neighbours (size slot : Nat) : Nat := if slot + 9 < size then 9 else 0

/-- The first free slot from one on, where `shift` makes the steps of the search. -/
def firstFree (taken : List Nat) (size : Nat) : Nat → (slot shift : Nat) → Nat
  | 0, slot, _ => slot
  | bound + 1, slot, shift =>
    let near := (List.range (neighbours size slot + 1)).map (slot + ·)
    match near.find? fun candidate => !taken.contains candidate with
    | some free => free
    | none =>
      let next := shift / 32
      firstFree taken size bound ((slot * 5 + 1 + next) % size) next

/-- The slots of some words that are put into a set in their order. -/
def slots (size : Nat) (words : List Nat) : List Nat :=
  (words.foldl
    (fun taken word => firstFree taken size (size + 64) (word % size) word :: taken)
    []).reverse

/-- Some values in the order in which a set lists them, given their words. -/
def arranged {α : Type} (values : List (Nat × α)) : List α :=
  let places := slots (tableSize values.length) (values.map Prod.fst)
  ((places.zip (values.map Prod.snd)).mergeSort fun left right =>
    left.1 ≤ right.1).map Prod.snd

end Slot

end LeaseRoster
