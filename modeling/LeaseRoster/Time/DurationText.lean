import LeaseRoster.Text.Blank
import LeaseRoster.Time.Duration

/-!
# Durations as text

A duration is written as numbers with units, one after the other without
separators, such as `30d`, `12h30m` or `-1.5w`; the text means the sum of its
parts.  `Duration.brief` writes a duration in days, hours and minutes.
-/

namespace LeaseRoster

namespace Duration

/-- The units of a duration; a month has 30 days and a year 365. -/
inductive TimeUnit
  | second
  | minute
  | hour
  | day
  | week
  | month
  | year
deriving DecidableEq, Repr

def TimeUnit.seconds : TimeUnit → Nat
  | .second => 1
  | .minute => 60
  | .hour => 3600
  | .day => 24 * 3600
  | .week => 7 * 24 * 3600
  | .month => 30 * 24 * 3600
  | .year => 365 * 24 * 3600

/-- The unit that a letter names.  Only the month and the minute differ by
case; seconds and hours have a small letter only. -/
def TimeUnit.ofLetter? : Char → Option TimeUnit
  | 's' => some .second
  | 'm' => some .minute
  | 'h' => some .hour
  | 'd' => some .day
  | 'D' => some .day
  | 'w' => some .week
  | 'W' => some .week
  | 'M' => some .month
  | 'y' => some .year
  | 'Y' => some .year
  | _ => none

/-- A number with a unit: the digits before the point, those after it if there is
one, and the unit. -/
structure Part where
  whole : List Nat
  fraction : Option (List Nat)
  unit : TimeUnit
deriving DecidableEq, Repr

def Part.number (part : Part) : Binary64 :=
  let fraction := part.fraction.getD []
  Binary64.ofDecimal false (Text.ofDigits 10 (part.whole ++ fraction))
    (-(fraction.length : Int))

def Part.seconds (part : Part) : Binary64 := part.number.scale part.unit.seconds

/-- Whether the digits before a unit make a number: some digits, and some after
the point if there is one. -/
def isNumber (whole : List Nat) : Option (List Nat) → Bool
  | none => !whole.isEmpty
  | some fraction => !fraction.isEmpty

/-- The parts of a text, given the digits of the part that is being read, in
reverse order. -/
def partsFrom (whole : List Nat) (fraction : Option (List Nat)) :
    List Char → Option (List Part)
  | [] => if whole.isEmpty && fraction.isNone then some [] else none
  | character :: rest =>
    match Text.decimalValue? character with
    | some digit =>
      match fraction with
      | none => partsFrom (digit :: whole) none rest
      | some digits => partsFrom whole (some (digit :: digits)) rest
    | none =>
      if character == '.' && fraction.isNone then partsFrom whole (some []) rest
      else
        match TimeUnit.ofLetter? character with
        | some unit =>
          if isNumber whole fraction then
            (partsFrom [] none rest).map
              (⟨whole.reverse, fraction.map List.reverse, unit⟩ :: ·)
          else none
        | none => none

def parts? (text : List Char) : Option (List Part) :=
  if text.isEmpty then none else partsFrom [] none text

def total (parts : List Part) : Binary64 :=
  parts.foldl (fun sum part => sum.add part.seconds) Binary64.zero

/-- What a text says about a duration. -/
inductive Reading
  | unset
  | length (duration : Duration)
  | unreadable
  | beyondRange
deriving DecidableEq

/-- The duration of some parts, counted backwards if `negative` is set. -/
def ofParts (negative : Bool) (parts : List Part) : Reading :=
  let seconds := total parts
  match ofSeconds? (if negative then seconds.neg else seconds) with
  | some duration => .length duration
  | none => .beyondRange

/-- A minus sign at the front of a text, and what follows it. -/
def splitMinus : List Char → Bool × List Char
  | '-' :: rest => (true, rest)
  | text => (false, text)

/-- The duration that a text denotes.  A blank text sets none, and a bare zero needs
no unit. -/
def read (text : List Char) : Reading :=
  let stripped := Text.strip text
  if stripped.isEmpty then .unset
  else
    let (negative, unsigned) := splitMinus stripped
    if unsigned == ['0'] then .length zero
    else
      match parts? unsigned with
      | none => .unreadable
      | some parts => ofParts negative parts

/-- A number with a letter behind it, or nothing for zero. -/
def unlessZero (number : Nat) (letter : Char) : List Char :=
  if number == 0 then [] else Text.decimal number ++ [letter]

/-- A positive duration in days, hours and minutes, or in seconds when it is
shorter than a minute; anything else is never. -/
def brief (duration : Option Duration) : List Char :=
  let never := ['n', 'e', 'v', 'e', 'r']
  match duration with
  | none => never
  | some length =>
    if length.micros ≤ 0 then never
    else
      let seconds := length.seconds
      let written :=
        unlessZero length.days.toNat 'd' ++ unlessZero (seconds / 3600) 'h' ++
          unlessZero (seconds % 3600 / 60) 'm'
      if written.isEmpty then Text.decimal (seconds % 60) ++ ['s'] else written

end Duration

end LeaseRoster
