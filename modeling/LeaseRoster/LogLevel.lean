import LeaseRoster.Record.Field
import LeaseRoster.Text.Casing

/-!
# Log levels

Every notice has a level, and the log leaves out what lies below its own.  Levels
are configured by name, in letters of any case.
-/

namespace LeaseRoster

/-- How much a log tells. -/
inductive LogLevel
  | debug
  | info
  | warning
  | error
  | critical
deriving DecidableEq

namespace LogLevel

def name : LogLevel → String
  | .debug => "DEBUG"
  | .info => "INFO"
  | .warning => "WARNING"
  | .error => "ERROR"
  | .critical => "CRITICAL"

/-- All levels, the most talkative one first. -/
def all : List LogLevel := [.debug, .info, .warning, .error, .critical]

def rank : LogLevel → Nat
  | .debug => 10
  | .info => 20
  | .warning => 30
  | .error => 40
  | .critical => 50

def ofName? (text : String) : Option LogLevel :=
  all.find? fun level => level.name == String.ofList (Text.upperAscii text.toList)

/-- The level of a record. -/
def read : Field.Reader LogLevel := fun datum =>
  (Field.text datum).thenCheck fun text =>
    match ofName? text with
    | some level => .accepted level
    | none => .refuse (.value (.unknownLogLevel text))

end LogLevel

end LeaseRoster
