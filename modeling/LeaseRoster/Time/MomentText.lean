import LeaseRoster.Text.Hex
import LeaseRoster.Time.Moment

/-!
# Moments as text

A moment is read from a date, any one character, and a time of day, each in the
extended form with hyphens and colons or in the basic form without; the date may
name a week and a weekday instead of a month and a day.  The time may end with a
distance from universal time.  Moments are written in the extended form, in one
of three ways that differ in how fractions and distances appear.
-/

namespace LeaseRoster

namespace Moment

/-! ## Reading -/

/-- The number written with the given count of ASCII digits at the front of a
text, and what follows. -/
def digits? (value : Nat) : Nat → List Char → Option (Nat × List Char)
  | 0, text => some (value, text)
  | _ + 1, [] => none
  | count + 1, character :: rest =>
    if Text.isAsciiDigit character then
      digits? (value * 10 + (character.toNat - 0x30)) count rest
    else none

def afterHyphen? (hyphens : Bool) : List Char → Option (List Char)
  | '-' :: rest => if hyphens then some rest else none
  | text => if hyphens then none else some text

/-- The day of the week at the end of a week date, Monday where none is given. -/
def readWeekday? (hyphens : Bool) (text : List Char) : Option Nat :=
  if text.isEmpty then some 1
  else do
    let rest ← afterHyphen? hyphens text
    let (day, _) ← digits? 0 1 rest
    some day

def readDay? (text : List Char) : Option Nat := do
  let (year, rest) ← digits? 0 4 text
  let hyphens := rest.head? == some '-'
  let rest := if hyphens then rest.drop 1 else rest
  if rest.head? == some 'W' then
    let (week, rest) ← digits? 0 2 (rest.drop 1)
    let day ← readWeekday? hyphens rest
    Calendar.weekDay? year week day
  else
    let (month, rest) ← digits? 0 2 rest
    let rest ← if hyphens then afterHyphen? true rest else some rest
    let (day, rest) ← digits? 0 2 rest
    if rest.isEmpty then (Date.of? year month day).map Date.number else none

/-- How many characters of a text belong to its date.  In a week date the weekday
is told from a time of day by what stands around it. -/
def dateLength (text : List Char) : Nat :=
  let at? (place : Nat) : Option Char := text[place]?
  let digitAt (place : Nat) : Bool := (at? place).any Text.isAsciiDigit
  if text.length == 7 then 7
  else if at? 4 == some '-' then
    if at? 5 == some 'W' then
      if at? 8 == some '-' then
        if digitAt 10 then 8 else 10
      else 8
    else 10
  else if at? 4 == some 'W' then
    let run := 7 + ((text.drop 7).takeWhile Text.isAsciiDigit).length
    if run < 9 then run
    else if run % 2 == 0 then 7
    else 8
  else 8

/-- What follows the pairs of digits of a time: nothing, one stray character, or the
digits of a fraction. -/
inductive ClockTail
  | nothing
  | stray
  | fraction (text : List Char)

/-- The pairs of digits at the front of a time, at most `count` of them, and what
follows.  Whether colons separate them is settled by the first one. -/
def readPairs? (separated : Option Bool) :
    Nat → List Char → Option (List Nat × ClockTail)
  | 0, text => some ([], .fraction text)
  | count + 1, text => do
    let (value, rest) ← digits? 0 2 text
    match rest with
    | [] => some ([value], .nothing)
    | mark :: after =>
      let colons := separated.getD (mark == ':')
      if after.isEmpty && mark.toNat < 0x80 then
        some ([value], if mark.toNat == 0 then .nothing else .stray)
      else if colons && mark == ':' then
        (readPairs? (some true) count after).map fun (values, tail) =>
          (value :: values, tail)
      else if mark == '.' || mark == ',' then some ([value], .fraction after)
      else if colons then none
      else
        (readPairs? (some false) count rest).map fun (values, tail) =>
          (value :: values, tail)

/-- The microseconds that the digits of a fraction denote, cut after the sixth, and
whether something other than digits follows. -/
def readFraction? (text : List Char) : Option (Nat × Bool) := do
  let count := min text.length 6
  let (value, rest) ← digits? 0 count text
  let tail := rest.dropWhile Text.isAsciiDigit
  let stray := tail.head?.any fun character => character.toNat != 0
  some (value * Nat.pow 10 (6 - count), stray)

/-- A time of day or a distance from universal time: its seconds, its microseconds,
and whether a stray character follows. -/
structure ClockText where
  pairs : List Nat
  micros : Nat
  stray : Bool

/-- Reads hours with optional minutes, seconds and fraction. -/
def readClock? (text : List Char) : Option ClockText := do
  let (pairs, tail) ← readPairs? none 3 text
  match tail with
  | .nothing => some ⟨pairs, 0, false⟩
  | .stray => some ⟨pairs, 0, true⟩
  | .fraction digits =>
    let (micros, stray) ← readFraction? digits
    some ⟨pairs, micros, stray⟩

def ClockText.seconds (clock : ClockText) : Nat :=
  let pair (place : Nat) : Nat := (clock.pairs[place]?).getD 0
  (pair 0 * 60 + pair 1) * 60 + pair 2

/-- Whether the hours, minutes and seconds are those of a time of day. -/
def ClockText.isTimeOfDay (clock : ClockText) : Bool :=
  let pair (place : Nat) : Nat := (clock.pairs[place]?).getD 0
  pair 0 < 24 && pair 1 < 60 && pair 2 < 60

/-- Whether a character starts a distance from universal time. -/
def startsOffset (character : Char) : Bool :=
  character == '+' || character == '-' || character == 'Z'

/-- The distance from universal time that a text denotes, in microseconds.  A
distance of no whole second is none at all.  After the letter for none the text must
end, or go on with a null character. -/
def readOffset? : List Char → Option Int
  | 'Z' :: after =>
    if after.head?.any fun character => character.toNat != 0 then none else some 0
  | sign :: text => do
    let clock ← readClock? text
    if clock.stray then none
    let micros := clock.seconds * microsPerSecond + clock.micros
    if clock.seconds == 0 then some 0
    else if microsPerDay ≤ micros then none
    else some (if sign == '-' then -(micros : Int) else micros)
  | [] => none

/-- The microseconds since midnight and the distance from universal time that a
text denotes. -/
def readTime? (text : List Char) : Option (Nat × Option Int) := do
  let timeText := text.takeWhile fun character => !startsOffset character
  let offsetText := text.dropWhile fun character => !startsOffset character
  let clock ← readClock? timeText
  if !clock.isTimeOfDay then none
  let micros := clock.seconds * microsPerSecond + clock.micros
  if offsetText.isEmpty then
    if clock.stray then none else some (micros, none)
  else
    let offset ← readOffset? offsetText
    some (micros, some offset)

def read? (text : List Char) : Option Moment := do
  if text.length < 7 then none
  let length := dateLength text
  let day ← readDay? (text.take length)
  match text.drop length with
  | [] => of? (day * microsPerDay) none
  | _ :: timeText =>
    let (micros, offset) ← readTime? timeText
    of? (day * microsPerDay + micros) offset

/-! ## Writing -/

def twoDigits (value : Nat) : List Char := Text.decimalPadded 2 value

def dayText (dayNumber : Nat) : List Char :=
  let (year, month, day) := Calendar.civil dayNumber
  Text.decimalPadded 4 year ++ '-' :: twoDigits month ++ '-' :: twoDigits day

def clockText (seconds : Nat) : List Char :=
  twoDigits (seconds / 3600) ++ ':' :: twoDigits (seconds / 60 % 60) ++
    ':' :: twoDigits (seconds % 60)

def microsText (micros : Nat) : List Char := '.' :: Text.decimalPadded 6 micros

/-- Six digits of microseconds after a point, or nothing for none. -/
def microsUnlessZero (micros : Nat) : List Char :=
  if micros == 0 then [] else microsText micros

/-- The date and the time of day, without the microseconds. -/
def secondsText (moment : Moment) : List Char :=
  dayText moment.dayNumber ++ 'T' :: clockText moment.secondOfDay

def offsetSign (offset : Int) : Char := if offset < 0 then '-' else '+'

/-- A distance from universal time to the precision that it needs. -/
def offsetText (offset : Int) : List Char :=
  let micros := offset.natAbs
  let seconds := micros / microsPerSecond
  let hoursMinutes :=
    twoDigits (seconds / 3600) ++ ':' :: twoDigits (seconds / 60 % 60)
  let rest := micros % microsPerSecond
  offsetSign offset :: hoursMinutes ++
    (if seconds % 60 == 0 && rest == 0 then []
     else ':' :: twoDigits (seconds % 60) ++ microsUnlessZero rest)

/-- A moment to the precision that it needs, with the distance written in full. -/
def isoText (moment : Moment) : List Char :=
  moment.secondsText ++ microsUnlessZero moment.microOfSecond ++
    ((moment.offset.map offsetText).getD [])

/-- A distance from universal time in hours and minutes, and a letter for none. -/
def briefOffsetText (offset : Int) : List Char :=
  let seconds := Int.fdiv offset microsPerSecond
  if seconds == 0 then ['Z']
  else
    let minutes := seconds.natAbs / 60
    offsetSign seconds :: twoDigits (minutes / 60) ++ ':' :: twoDigits (minutes % 60)

/-- A moment as published: like `isoText`, with the distance in hours and
minutes. -/
def publishedText (moment : Moment) : List Char :=
  moment.secondsText ++ microsUnlessZero moment.microOfSecond ++
    ((moment.offset.map briefOffsetText).getD [])

/-- A moment as stored: in universal time and with all six digits of the
microseconds, so that the texts of two moments are ordered as the moments are.
`none` where the instant has no clock reading in universal time. -/
def storedText? (moment : Moment) : Option (List Char) :=
  moment.toUniversal?.map fun universal =>
    universal.secondsText ++ microsText universal.microOfSecond ++
      ['+', '0', '0', ':', '0', '0']

/-- The moment that a stored text denotes, in universal time where the text gives
no distance from it. -/
def readStored? (text : List Char) : Option Moment :=
  (read? text).map assumeUniversal

end Moment

end LeaseRoster
