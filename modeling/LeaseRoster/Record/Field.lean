import LeaseRoster.Datum
import LeaseRoster.Network.Address
import LeaseRoster.Network.Mac
import LeaseRoster.Number.Numeral
import LeaseRoster.Number.Word
import LeaseRoster.Record.Checked
import LeaseRoster.Text.Half
import LeaseRoster.Time.DurationText

/-!
# Fields of records

Readers for the kinds of values that the fields of records hold.  A reader takes
what a document has and gives a value of the domain; it is lenient where a value
of another kind says the same, such as a whole number written as a text.
-/

namespace LeaseRoster

namespace Field

/-- A reader of the values of a field. -/
abbrev Reader (α : Type) := Datum → Checked α

variable {α β : Type}

/-! ## Scalars -/

/-- The text that a value is, or that its bytes hold. -/
def textOf? : Datum → Option (Option (List Char))
  | .text value => some (some value.toList)
  | .bytes value => some (Text.decodeStrict value)
  | _ => none

def text : Reader String
  | .text value => .accepted value
  | .bytes value =>
    match Text.decodeStrict value with
    | some characters => .accepted (String.ofList characters)
    | none => .refuse .notTextEncoding
  | _ => .refuse .notText

def optional (read : Reader α) : Reader (Option α)
  | .null => .accepted none
  | datum => (read datum).map some

/-- Reads a value that is a text, or bytes that hold one.  There is one cause for bytes
that hold none, and one for any other value.  A text without a UTF-8 form is refused; the limit of
`Text.isEncodable` applies. -/
def fromText (unreadable other : FieldCause) (read : List Char → Checked α)
    (datum : Datum) : Checked α :=
  match textOf? datum with
  | some (some characters) =>
    if Text.isEncodable characters then read characters else .refuse .notTextEncoding
  | some none => .refuse unreadable
  | none => .refuse other

def integerText (characters : List Char) : Checked Int :=
  match Numeral.readInteger characters with
  | .ok value => .accepted value
  | .error .malformed => .refuse .integerText
  | .error .tooLong => .refuse .integerSize

/-- Whether an integer lies strictly between the bounds of the signed words. -/
def insideWord (value : Int) : Bool := -wordLimit < value && value < wordLimit

/-- An integer.  A floating-point number counts as one if it has no fraction and lies
inside the signed words. -/
def integer : Reader Int
  | .whole value => .accepted value
  | .flag value => .accepted (if value then 1 else 0)
  | .real (.finite negative units) =>
    match (Binary64.finite negative units).toInt? with
    | some value => if insideWord value then .accepted value else .refuse .integerSize
    | none => .refuse .integerFraction
  | .real _ => .refuse .infiniteInteger
  | datum => fromText .integerText .notInteger integerText datum

def numberText (characters : List Char) : Checked Binary64 :=
  .ofOption .numberText (Numeral.readNumber? characters)

/-- The number that an integer was rounded to, unless it is infinite. -/
def finiteNumber : Binary64 → Checked Binary64
  | .finite negative units => .accepted (.finite negative units)
  | _ => .refuse .notNumber

def number : Reader Binary64
  | .real value => .accepted value
  | .flag value => .accepted (Binary64.ofInt (if value then 1 else 0))
  | .whole value => finiteNumber (Binary64.ofInt value)
  | datum => fromText .numberText .notNumber numberText datum

/-- The number that a value is, where a text does not count as one. -/
def plainNumber : Datum → Except Fault Binary64
  | .real value => .ok value
  | .flag value => .ok (Binary64.ofInt (if value then 1 else 0))
  | .whole value =>
    match Binary64.ofInt value with
    | .finite negative units => .ok (.finite negative units)
    | _ => .error .beyondRange
  | _ => .error .wrongKind

def flagWord? (word : String) : Option Bool :=
  if ["1", "true", "t", "yes", "y", "on"].contains word then some true
  else if ["0", "false", "f", "no", "n", "off"].contains word then some false
  else none

/-- The truth value that one and zero stand for. -/
def flagInteger (value : Int) : Checked Bool :=
  if value == 0 then .accepted false
  else if value == 1 then .accepted true
  else .refuse .flagText

def flagText (characters : List Char) : Checked Bool :=
  .ofOption .flagText (flagWord? (String.ofList (Numeral.lowerAscii characters)))

def flag : Reader Bool
  | .flag value => .accepted value
  | .whole value => if fitsWord value then flagInteger value else .refuse .notFlag
  | .real value =>
    match value.toInt? with
    | some whole => if insideWord whole then flagInteger whole else .refuse .notFlag
    | none => .refuse .notFlag
  | datum => fromText .flagText .notFlag flagText datum

/-! ## Bounds -/

def positive : Reader Int := fun datum =>
  (integer datum).thenCheck fun value =>
    if 0 < value then .accepted value else .refuse .notPositive

def natural : Reader Int := fun datum =>
  (integer datum).thenCheck fun value =>
    if 0 ≤ value then .accepted value else .refuse .negative

def positiveNumber : Reader Binary64 := fun datum =>
  (number datum).thenCheck fun value =>
    if Binary64.zero.lt value then .accepted value else .refuse .notPositive

/-- An integer greater than zero and not above a greatest one. -/
def positiveUpTo (greatest : Nat) : Reader Int := fun datum =>
  (positive datum).thenCheck fun value =>
    if value ≤ greatest then .accepted value else .refuse (.aboveGreatest greatest)

/-! ## Values of the domain -/

/-- The hardware address that a value spells.  A value that is no text at all is
not a matter of spelling and stops the operation. -/
def readMac : Datum → Except Fault MacAddress
  | .null => .error (.value .missingMac)
  | .text value =>
    match MacAddress.read? value.toList with
    | some mac => .ok mac
    | none =>
      .error (.value (.malformedMac (String.ofList (Text.quoted value.toList))))
  | .bytes _ => .error .wrongKind
  | _ => .error .foreignValue

def sameMac (left right : Datum) : Except Fault Bool :=
  match readMac left with
  | .error (.value _) => .ok false
  | .error fault => .error fault
  | .ok leftMac =>
    match readMac right with
    | .error (.value _) => .ok false
    | .error fault => .error fault
    | .ok rightMac => .ok (leftMac == rightMac)

def mac : Reader MacAddress := fun datum => .ofExcept (readMac datum)

/-- The internet address that a value stands for: a text without blanks around it,
a number, or its four or sixteen bytes. -/
def addressOf? : Datum → Option IpAddress
  | .whole value => IpAddress.ofInt? value
  | .flag value => IpAddress.ofInt? (if value then 1 else 0)
  | .bytes value =>
    if value.length == 4 then IpAddress.ofBits4? (Octets.toNat value)
    else if value.length == 16 then IpAddress.ofBits6? (Octets.toNat value) none
    else none
  | datum => IpAddress.read? datum.plain

def address : Reader IpAddress := fun datum => .ofOption .notAddress (addressOf? datum)

/-- The address that a value shows when it is written out, if any. -/
def shownAddress? : Datum → Option IpAddress
  | .null => none
  | datum => IpAddress.readStripped? datum.plain

/-- The greatest count from the start of 1970, on either side, that is one of seconds;
beyond it milliseconds are counted. -/
def greatestSeconds : Int := 20000000000

/-- The first count of seconds from the start of 1970 that lies in year 0. -/
def yearZeroStart : Int := -62167219200

/-- The first count of seconds from the start of 1970 behind year 9999. -/
def yearsEnd : Int := 253402300800

/-- The moment that a count of seconds or milliseconds from the start of 1970 and some
microseconds later stands for.  Year 0 can be counted to, but no moment lies in it. -/
def momentOfCount (count : Int) (micros : Nat) : Checked Moment :=
  let inSeconds : Bool := count.natAbs ≤ greatestSeconds
  let seconds := if inSeconds then count else Int.fdiv count 1000
  let later : Int := if inSeconds then micros else Int.fmod count 1000 * 1000 + micros
  let reached := seconds + Int.fdiv later microsPerSecond
  if reached < yearZeroStart then .refuse (.unreadableMoment .tooEarly)
  else if yearsEnd ≤ reached then .refuse (.unreadableMoment .tooLate)
  else
    .ofOption (.unreadableMoment .beforeCalendar)
      (Moment.of? (Moment.epochMicros + seconds * microsPerSecond + later) (some 0))

/-- The moment that a number stands for: its integer part is counted, and the size of
its fraction is added as microseconds, whatever the sign of the number. -/
def momentOfNumber : Binary64 → Checked Moment
  | .finite negative units =>
    momentOfCount (Binary64.floorPart negative units)
      (Binary64.roundHalfUp (Binary64.fractionMillionths units))
  | .infinite true => .refuse (.unreadableMoment .tooEarly)
  | .infinite false => .refuse (.unreadableMoment .tooLate)
  | .notANumber => .refuse (.unreadableMoment .notANumber)

/-- The moment that the number stands for to which an integer was rounded, unless it is
infinite. -/
def momentOfFinite : Binary64 → Checked Moment
  | .finite negative units => momentOfNumber (.finite negative units)
  | _ => .refuse .notMoment

/-- A moment.  An integer that does not fit a word is read as a number, if one is near
it. -/
def moment : Reader Moment
  | .moment value => .accepted value
  | .date value => .ofOption .notMoment (Moment.of? (value.number * microsPerDay) none)
  | .whole value =>
    if fitsWord value then momentOfCount value 0
    else momentOfFinite (Binary64.ofInt value)
  | .real value => momentOfNumber value
  | _ => .refuse .notMoment

/-- The fault of a value that messages cannot show because of its size, and otherwise
the one that shows it. -/
def showing (datum : Datum) (fault : String → ValueFault) : Fault :=
  .value (if datum.isShowable then fault datum.shownText else .numeral .tooLarge)

/-- The duration that a value sets: none, zero, or the one that its text denotes. -/
def readDuration (datum : Datum) : Except Fault (Option Duration) :=
  match datum with
  | .null => .ok none
  | .duration value => .ok (some value)
  | .flag value => numeric value
  | .whole value => numeric (value != 0)
  | .real value => numeric (!value.isZero)
  | _ =>
    match Duration.read datum.plain with
    | .unset => .ok none
    | .length duration => .ok (some duration)
    | .unreadable => .error (showing datum .malformedDuration)
    | .beyondRange => .error .beyondRange
where
  /-- The duration of a number, of which only zero needs no unit. -/
  numeric (isSet : Bool) : Except Fault (Option Duration) :=
    if isSet then .error (showing datum .unitlessDuration) else .ok (some Duration.zero)

def duration : Reader (Option Duration) := fun datum =>
  .ofExcept (readDuration datum)

/-! ## Records -/

def list (read : Reader α) : Reader (List α) := fun datum =>
  match datum.items? with
  | some items => Checked.all read 0 items
  | none => .refuse .notList

def required (record : Datum) (name : String) (read : Reader α) : Checked α :=
  match record.get? name with
  | some datum => (read datum).inside (.name name)
  | none => (Checked.refuse .missing).inside (.name name)

/-- A field that has a value of its own when a record leaves it out. -/
def withDefault (record : Datum) (name : String) (value : α) (read : Reader α) :
    Checked α :=
  match record.get? name with
  | some datum => (read datum).inside (.name name)
  | none => .accepted value

/-- A record, known by a name, whose fields are read from a mapping. -/
def record (name : String) (fields : Datum → Checked α) : Reader α := fun datum =>
  match datum.untied with
  | .mapping entries => fields (.mapping entries)
  | _ => .refuse (.notRecord name)

end Field

end LeaseRoster
