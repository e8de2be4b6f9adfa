import LeaseRoster.Feed.Lines
import LeaseRoster.Index
import LeaseRoster.Lease
import LeaseRoster.Notice

/-!
# Formats of feeds

For every source of leases and every command to it there is one format, the one
registered last.  Letter case does not matter in either.  A format is known here
by what reads it.
-/

namespace LeaseRoster

namespace Feed

/-- What reads a feed: the reader of lease files, or another one with a name. -/
inductive FeedReader
  | leaseFile
  | named (name : String)
deriving DecidableEq

def FeedReader.name : FeedReader → String
  | .leaseFile => "DnsmasqLeasesParser.parse"
  | .named name => name

/-- The formats of all sources and commands, by what reads them. -/
abbrev Formats := Index String FeedReader

def formatKey (source command : String) : String :=
  String.ofList (Text.lower source.toList ++ '_' :: Text.lower command.toList)

namespace Formats

def get? (formats : Formats) (source command : String) : Option FeedReader :=
  formats.find? (formatKey source command)

def register (formats : Formats) (source command : String) (reader : FeedReader) :
    Formats :=
  formats.insert (formatKey source command) reader

/-- The notice of a registration, given when it replaces another format. -/
def registerNotices (formats : Formats) (source command : String)
    (reader : FeedReader) : List Notice :=
  match formats.get? source command with
  | some present =>
    if present = reader then []
    else [.formatReplaced (formatKey source command) reader.name]
  | none => []

def initial : Formats := register Index.empty source leasesKey .leaseFile

end Formats

/-- A format that says nothing about how its text is read. -/
def undefinedParse : Except Fault Datum :=
  .error (.unimplemented "parse() must be implemented by the concrete parser")

/-- A format that says nothing about how its entries become leases. -/
def undefinedNormalize : Except Fault (List Lease) :=
  .error (.unimplemented "Implement in subclass")

end Feed

end LeaseRoster
