import LeaseRoster.Text.Half
import LeaseRoster.Text.Whole

/-!
# Faults

Everything that can go wrong is a value here, named for its cause.  A value that
breaks a rule of its own gives a `ValueFault`; a record whose fields do not fit
gives the list of its `FieldFault`s; what stops a whole operation is a `Fault`.
The wording of each is a function of the cause.
-/

namespace LeaseRoster

/-! ## Values -/

/-- Why a single value is refused. -/
inductive ValueFault
  | missingMac
  | malformedMac (shown : String)
  | unitlessDuration (shown : String)
  | malformedDuration (shown : String)
  | malformedTemplate (shown : String)
  | strayDollar
  | unknownLogLevel (name : String)
  | invalidRange (first last : String)
  | foreignGateway (network : String)
  | publicNetwork (network : String)
  | malformedNetmask (network : String)
  | malformedSubnet (shown : String)
  | endOutside (network : String)
  | gatewayOutside (network : String)
  | numeral (fault : Text.NumeralFault)
  | unreadableMoment
  | unreadableNumber
  | unprintableCharacter
  | nullCharacter
  | namelessPath
deriving DecidableEq

namespace ValueFault

def message : ValueFault → String
  | .missingMac => "MAC address is missing"
  | .malformedMac shown => "invalid MAC address: " ++ shown
  | .unitlessDuration shown =>
    "duration " ++ shown ++ " has no unit, use e.g. \"30d\" or \"12h\""
  | .malformedDuration shown => "invalid duration string: " ++ shown
  | .malformedTemplate shown => "invalid link template: " ++ shown
  | .strayDollar => "invalid placeholder in string"
  | .unknownLogLevel name => "invalid log level: " ++ name
  | .invalidRange first last =>
    "invalid DHCP range " ++ first ++ "-" ++ last ++ " found in config file"
  | .foreignGateway network =>
    "invalid gateway in DHCP network [" ++ network ++ "]"
  | .publicNetwork network =>
    "invalid DHCP network [" ++ network ++
      "]: only private IPs are allowed (RFC 1918 and RFC 4193)"
  | .malformedNetmask network =>
    "invalid netmask in DHCP network [" ++ network ++ "]"
  | .malformedSubnet shown =>
    shown ++ " does not appear to be an IPv4 or IPv6 network"
  | .endOutside network =>
    "invalid DHCP network [" ++ network ++
      "]: start and end IPs must be within the same network"
  | .gatewayOutside network =>
    "invalid DHCP network [" ++ network ++
      "]: the gateway must be inside the network"
  | .numeral fault => fault.message
  | .unreadableMoment => "invalid date or time"
  | .unreadableNumber => "invalid number"
  | .unprintableCharacter => "invalid character number"
  | .nullCharacter => "null character in a path"
  | .namelessPath => "path has an empty name"

/-- Whether the rule that a value breaks is one of the roster's own, and not one of
reading numbers, times, networks and placeholders in general. -/
def isOwn : ValueFault → Bool
  | .strayDollar => false
  | .malformedSubnet _ => false
  | .numeral _ => false
  | .unreadableMoment => false
  | .unreadableNumber => false
  | .unprintableCharacter => false
  | .nullCharacter => false
  | .namelessPath => false
  | _ => true

end ValueFault

/-! ## Fields -/

/-- One step of the way from a record to a value inside it. -/
inductive FieldStep
  | name (name : String)
  | index (place : Nat)
deriving DecidableEq

/-- Why a number is not a moment. -/
inductive MomentFault
  | notANumber
  | tooEarly
  | tooLate
  | beforeCalendar
deriving DecidableEq

def MomentFault.message : MomentFault → String
  | .notANumber => "NaN values not permitted"
  | .tooEarly => "dates before 0000 are not supported as unix timestamps"
  | .tooLate => "dates after 9999 are not supported as unix timestamps"
  | .beforeCalendar => "year 0 is out of range"

/-- Why the value of a field is refused. -/
inductive FieldCause
  | missing
  | notText
  | notTextEncoding
  | notInteger
  | integerText
  | integerSize
  | integerFraction
  | infiniteInteger
  | notNumber
  | numberText
  | notFlag
  | flagText
  | notList
  | notRecord (record : String)
  | notMoment
  | unreadableMoment (reason : MomentFault)
  | notPositive
  | negative
  | aboveGreatest (greatest : Nat)
  | notAddress
  | value (fault : ValueFault)
deriving DecidableEq

namespace FieldCause

def kind : FieldCause → String
  | .missing => "missing"
  | .notText => "string_type"
  | .notTextEncoding => "string_unicode"
  | .notInteger => "int_type"
  | .integerText => "int_parsing"
  | .integerSize => "int_parsing_size"
  | .integerFraction => "int_from_float"
  | .infiniteInteger => "finite_number"
  | .notNumber => "float_type"
  | .numberText => "float_parsing"
  | .notFlag => "bool_type"
  | .flagText => "bool_parsing"
  | .notList => "list_type"
  | .notRecord _ => "model_type"
  | .notMoment => "datetime_type"
  | .unreadableMoment _ => "datetime_parsing"
  | .notPositive => "greater_than"
  | .negative => "greater_than_equal"
  | .aboveGreatest _ => "less_than_equal"
  | .notAddress => "ip_any_address"
  | .value _ => "value_error"

def message : FieldCause → String
  | .missing => "Field required"
  | .notText => "Input should be a valid string"
  | .notTextEncoding =>
    "Input should be a valid string, unable to parse raw data as a unicode string"
  | .notInteger => "Input should be a valid integer"
  | .integerText =>
    "Input should be a valid integer, unable to parse string as an integer"
  | .integerSize =>
    "Unable to parse input string as an integer, exceeded maximum size"
  | .integerFraction =>
    "Input should be a valid integer, got a number with a fractional part"
  | .infiniteInteger => "Input should be a finite number"
  | .notNumber => "Input should be a valid number"
  | .numberText =>
    "Input should be a valid number, unable to parse string as a number"
  | .notFlag => "Input should be a valid boolean"
  | .flagText => "Input should be a valid boolean, unable to interpret input"
  | .notList => "Input should be a valid list"
  | .notRecord record =>
    "Input should be a valid dictionary or instance of " ++ record
  | .notMoment => "Input should be a valid datetime"
  | .unreadableMoment reason => "Input should be a valid datetime, " ++ reason.message
  | .notPositive => "Input should be greater than 0"
  | .negative => "Input should be greater than or equal to 0"
  | .aboveGreatest greatest =>
    "Input should be less than or equal to " ++ toString greatest
  | .notAddress => "value is not a valid IPv4 or IPv6 address"
  | .value fault =>
    "Value error, " ++ String.ofList (Text.lossy fault.message.toList)

end FieldCause

/-- A refused value of a record and the way to it. -/
structure FieldFault where
  cause : FieldCause
  path : List FieldStep
deriving DecidableEq

/-- The same fault seen from a record further out. -/
def FieldFault.inside (step : FieldStep) (fault : FieldFault) : FieldFault :=
  { fault with path := step :: fault.path }

/-! ## Documents -/

/-- Why a text is not a document. -/
inductive DocumentFault
  | unprintable
  | unexpectedCharacter (character : Char)
  | unexpectedToken
  | keyWithoutColon
  | misplacedEntry
  | misplacedKey
  | misplacedColon
  | malformedDirective
  | incompatibleVersion
  | repeatedDirective
  | malformedName
  | malformedTag
  | undefinedHandle (handle : String)
  | malformedHeader
  | unclosedText
  | brokenText
  | unknownEscape
  | undefinedAlias (name : String)
  | repeatedAnchor (name : String)
  | severalDocuments
  | unknownTag (name : String)
  | wrongContent
  | collectionAsKey
  | malformedMerge
  | malformedBytes
deriving DecidableEq

def DocumentFault.message : DocumentFault → String
  | .unprintable => "special characters are not allowed"
  | .unexpectedCharacter character =>
    "no token starts with the character " ++ String.singleton character
  | .unexpectedToken => "token out of place"
  | .keyWithoutColon => "could not find the colon of a key"
  | .misplacedEntry => "sequence entries are not allowed here"
  | .misplacedKey => "mapping keys are not allowed here"
  | .misplacedColon => "mapping values are not allowed here"
  | .malformedDirective => "malformed directive"
  | .incompatibleVersion => "incompatible version of the document"
  | .repeatedDirective => "repeated directive"
  | .malformedName => "malformed name of an anchor or alias"
  | .malformedTag => "malformed tag"
  | .undefinedHandle handle => "undefined tag handle " ++ handle
  | .malformedHeader => "malformed header of a block of text"
  | .unclosedText => "end of the document inside a quoted text"
  | .brokenText => "document separator inside a quoted text"
  | .unknownEscape => "unknown escape in a quoted text"
  | .undefinedAlias name => "undefined alias " ++ name
  | .repeatedAnchor name => "repeated anchor " ++ name
  | .severalDocuments => "more than one document"
  | .unknownTag name => "no value is made for the tag " ++ name
  | .wrongContent => "content that does not suit its tag"
  | .collectionAsKey => "collection as the key of a mapping"
  | .malformedMerge => "only mappings can be merged"
  | .malformedBytes => "malformed bytes in base 64"

/-! ## Operations -/

/-- Why the configuration cannot be used. -/
inductive ConfigurationFault
  | missingFile (path : String)
  | notDocument (path : String) (fault : DocumentFault)
  | notMapping (path : String)
  | refused (path : String) (faults : List FieldFault)
  | unreadableEpoch (path reason : String)
  | malformedEpoch (source shown : String)
  | negativeEpoch (source : String) (epoch : Int)
  | invalidPool (ranges : String)
deriving DecidableEq

def ConfigurationFault.message : ConfigurationFault → String
  | .missingFile path => "config file not found: " ++ path
  | .notDocument path fault =>
    "config file " ++ path ++ " is not valid YAML: " ++ fault.message
  | .notMapping path =>
    "config file " ++ path ++ " must contain a mapping at top level"
  | .refused path _ => "invalid configuration in " ++ path
  | .unreadableEpoch path reason =>
    "failed to read start epoch file " ++ path ++ ": " ++ reason
  | .malformedEpoch source shown =>
    "start epoch in " ++ source ++ " is not an integer: " ++ shown
  | .negativeEpoch source epoch =>
    "start epoch in " ++ source ++ " must not be negative: " ++ toString epoch
  | .invalidPool ranges => "invalid DHCP pool: " ++ ranges

/-- What the history store was asked for. -/
inductive HistoryTask
  | opening (path : String)
  | upserting (mac : String)
  | querying (mac : String)
  | scanning
  | purging
deriving DecidableEq

/-- Why the history store could not do it. -/
inductive HistoryCause
  | closed
  | cannotOpen
  | notDatabase
  | unsupportedValue (place : Nat) (kind : String)
  | garbledText (column : String) (bytes : List UInt8)
deriving DecidableEq

def HistoryTask.message : HistoryTask → String
  | .opening path => "failed to open tracker DB " ++ path
  | .upserting mac => "failed to upsert " ++ mac
  | .querying mac => "failed to query " ++ mac
  | .scanning => "failed to query dhcp_clients"
  | .purging => "failed to purge dhcp_clients"

/-- The greatest number of bytes in the wording of a garbled text. -/
def garbledLimit : Nat := 198

/-- The wording of a text in some column that is not UTF-8.  It shows the bytes in front of the
first that is zero, those that are no ASCII by a replacement character. -/
def garbledMessage (column : String) (bytes : List UInt8) : String :=
  let shown := (bytes.takeWhile (· != 0)).map fun byte =>
    if byte < 0x80 then Char.ofNat byte.toNat else Text.replacement
  let opening := "Could not decode to UTF-8 column '" ++ column ++ "' with text '"
  String.ofList ((opening.toList ++ shown ++ "'".toList).take garbledLimit)

def HistoryCause.message : HistoryCause → String
  | .closed => "Cannot operate on a closed database."
  | .cannotOpen => "unable to open database file"
  | .notDatabase => "file is not a database"
  | .unsupportedValue place kind =>
    "Error binding parameter " ++ toString place ++ ": type '" ++ kind ++
      "' is not supported"
  | .garbledText column bytes => garbledMessage column bytes

/-- What stops an operation: a refused value or record, a document, a configuration
or a history store that cannot be used, a value of the wrong kind or nested too deep, a
number out of range, a broken rule or a misuse of the table, or a file that cannot be used as
asked. -/
inductive Fault
  | value (fault : ValueFault)
  | invalid (faults : List FieldFault)
  | document (fault : DocumentFault)
  | configuration (fault : ConfigurationFault)
  | history (task : HistoryTask) (cause : HistoryCause)
  | wrongKind
  | foreignValue
  | missingKey
  | missingItem
  | tooDeep
  | beyondRange
  | beyondClock
  | constraint
  | misuse
  | undecodable
  | unencodable
  | missingFile
  | isDirectory
  | notDirectory
  | nameTooLong
  | alreadyExists
  | slotTaken
  | unimplemented (message : String)
deriving DecidableEq

def Fault.message : Fault → String
  | .value fault => fault.message
  | .invalid faults =>
    toString faults.length ++ " invalid fields"
  | .document fault => fault.message
  | .configuration fault => fault.message
  | .history task cause => task.message ++ ": " ++ cause.message
  | .wrongKind => "value of the wrong kind"
  | .foreignValue => "value foreign to the operation"
  | .missingKey => "no such key"
  | .missingItem => "no such item"
  | .tooDeep => "nested too deep"
  | .beyondRange => "value out of range"
  | .beyondClock => "moment beyond the calendar of the system"
  | .constraint => "row breaks a rule of the table"
  | .misuse => "table is not open or cannot hold the value"
  | .undecodable => "file is not UTF-8 text"
  | .unencodable => "text has no UTF-8 form"
  | .missingFile => "no such file"
  | .isDirectory => "path is a directory"
  | .notDirectory => "path leads through a file"
  | .nameTooLong => "name of a file is too long"
  | .alreadyExists => "path exists and is not a directory"
  | .slotTaken => "a batch is already waiting"
  | .unimplemented message => message

/-- Whether a fault is one of the operating system's. -/
def Fault.isSystem : Fault → Bool
  | .beyondClock => true
  | .missingFile => true
  | .isDirectory => true
  | .notDirectory => true
  | .nameTooLong => true
  | .alreadyExists => true
  | _ => false

end LeaseRoster
