import LeaseRoster.Number.Shortest
import LeaseRoster.Text.Quoted
import LeaseRoster.Text.Whole
import LeaseRoster.Time.MomentText

/-!
# Values of configuration documents as texts

What a document holds before it is known what it should hold: scalars of several
kinds, lists, sets, pairs and mappings.  A mapping keeps its entries in the order
in which their keys were first written.  A collection that a document holds inside
itself is a knot: it has a label, which stands for the whole of it further inside.
Messages show such a collection once and only a mark of it inside itself.
-/

namespace LeaseRoster

/-- A value of a document. -/
inductive Datum
  | null
  | flag (value : Bool)
  | whole (value : Int)
  | real (value : Binary64)
  | text (value : String)
  | bytes (value : List UInt8)
  | date (value : Date)
  | moment (value : Moment)
  | duration (value : Duration)
  | list (items : List Datum)
  | pair (first second : Datum)
  | set (items : List Datum)
  | mapping (entries : List (Datum × Datum))
  | knot (label : Nat) (body : Datum)
  | recurring (label : Nat) (isList : Bool)

namespace Datum

/-! ## Showing a value -/

def commaSeparated : List (List Char) → List Char
  | [] => []
  | [last] => last
  | first :: rest => first ++ ',' :: ' ' :: commaSeparated rest

def application (name : String) (arguments : List (List Char)) : List Char :=
  name.toList ++ '(' :: commaSeparated arguments ++ [')']

/-- A named argument, or nothing for zero. -/
def namedUnlessZero (name : String) (value : Int) : List (List Char) :=
  if value == 0 then [] else [name.toList ++ '=' :: Text.decimalInt value]

/-- A duration as days, seconds and microseconds, zeros left out. -/
def shownDuration (duration : Duration) : List Char :=
  let arguments :=
    namedUnlessZero "days" duration.days ++
      namedUnlessZero "seconds" duration.seconds ++
      namedUnlessZero "microseconds" duration.microseconds
  application "datetime.timedelta" (if arguments.isEmpty then [['0']] else arguments)

/-- A distance from universal time. -/
def shownOffset (offset : Int) : List Char :=
  if offset == 0 then "datetime.timezone.utc".toList
  else
    application "datetime.timezone"
      (((Duration.ofMicros? offset).map shownDuration).toList)

def dayArguments (dayNumber : Nat) : List (List Char) :=
  let (year, month, day) := Calendar.civil dayNumber
  [year, month, day].map Text.decimal

/-- A moment as its numbers from the year on; seconds and microseconds are left out
when there are none behind them. -/
def shownMoment (moment : Moment) : List Char :=
  let second := moment.secondOfDay % 60
  let micros := moment.microOfSecond
  let clock :=
    [moment.secondOfDay / 3600, moment.secondOfDay / 60 % 60] ++
      (if second == 0 && micros == 0 then []
       else if micros == 0 then [second] else [second, micros])
  let offset :=
    (moment.offset.map fun offset => "tzinfo=".toList ++ shownOffset offset).toList
  application "datetime.datetime"
    (dayArguments moment.dayNumber ++ clock.map Text.decimal ++ offset)

def isList : Datum → Bool
  | .list _ => true
  | _ => false

/-- The mark of a collection inside itself. -/
def recurrenceMark (ofList : Bool) : List Char :=
  (if ofList then "[...]" else "\x7b...\x7d").toList

mutual

/-- A value as messages show it inside the knots with some labels. -/
def shownWithin (around : List Nat) : Datum → List Char
  | .null => "None".toList
  | .flag value => (if value then "True" else "False").toList
  | .whole value => Text.decimalInt value
  | .real value => value.text
  | .text value => Text.quoted value.toList
  | .bytes value => Text.quotedBytes value
  | .date value => application "datetime.date" (dayArguments value.number)
  | .moment value => shownMoment value
  | .duration value => shownDuration value
  | .list items => '[' :: commaSeparated (shownItems around items) ++ [']']
  | .pair first second =>
    '(' :: commaSeparated [shownWithin around first, shownWithin around second] ++ [')']
  | .set items =>
    if items.isEmpty then "set()".toList
    else '\x7b' :: commaSeparated (shownItems around items) ++ ['\x7d']
  | .mapping entries =>
    '\x7b' :: commaSeparated (shownEntries around entries) ++ ['\x7d']
  | .knot label body =>
    if around.contains label then recurrenceMark body.isList
    else shownWithin (label :: around) body
  | .recurring _ ofList => recurrenceMark ofList

def shownItems (around : List Nat) : List Datum → List (List Char)
  | [] => []
  | item :: rest => shownWithin around item :: shownItems around rest

def shownEntries (around : List Nat) : List (Datum × Datum) → List (List Char)
  | [] => []
  | entry :: rest => shownEntry around entry :: shownEntries around rest

def shownEntry (around : List Nat) : Datum × Datum → List Char
  | (key, value) => shownWithin around key ++ ':' :: ' ' :: shownWithin around value

end

def shown (datum : Datum) : List Char := shownWithin [] datum

mutual

/-- Whether no integer in a value is too large to be written out. -/
def isShowable : Datum → Bool
  | .whole value => Text.hasNumeral value
  | .list items => areShowable items
  | .pair first second => isShowable first && isShowable second
  | .set items => areShowable items
  | .mapping entries => entriesShowable entries
  | .knot _ body => isShowable body
  | _ => true

/-- Whether no integer in the values of a list is too large to be written out. -/
def areShowable : List Datum → Bool
  | [] => true
  | item :: rest => isShowable item && areShowable rest

/-- Whether no integer in the entries of a mapping is too large to be written out. -/
def entriesShowable : List (Datum × Datum) → Bool
  | [] => true
  | entry :: rest => entryShowable entry && entriesShowable rest

/-- Whether no integer in an entry of a mapping is too large to be written out. -/
def entryShowable : Datum × Datum → Bool
  | (key, value) => isShowable key && isShowable value

end

/-- A value as a text of its own: a text stands for itself. -/
def plain : Datum → List Char
  | .text value => value.toList
  | other => other.shown

def shownText (datum : Datum) : String := String.ofList datum.shown

end Datum

end LeaseRoster
