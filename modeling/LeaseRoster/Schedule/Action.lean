import LeaseRoster.Feed.Leases
import LeaseRoster.Roster.Basic

/-!
# What can happen to a roster

The parts of the service work side by side.  What they do in one particular order is
written down as a list of actions: single operations on the history, the reconciler
and the roster, and the loops of the service together with what happens in each of
their rounds.  An action that cannot be read stands for the fault that it answers.
-/

namespace LeaseRoster

namespace Schedule

/-- Something that happens to a roster. -/
inductive Action
  | refused (fault : Fault)
  | setClock (now : Moment)
  | upsert (mac hostname : Datum) (lastSeen : Option Datum) (epoch : Datum)
  | insertRow (mac hostname lastSeen epoch : Datum)
  | listRows
  | lookUp (mac : Datum)
  | listSightings
  | purge (retention : Option Duration) (now : Option Moment)
  | purgeOnce (retention : Option Duration)
  | purgeLoop (retention : Option Duration) (interval : Datum)
      (rounds : List (List Action))
  | close
  | reopen
  | enrich (feed : Feed.Outcome) (tracked : Bool)
  | listPast (alive : List Datum)
  | friendlyName (mac hostname : Datum)
  | staticAddress (address mac : Datum)
  | link (hostname address mac : Datum)
  | apply (feed : Feed.Outcome)
  | showVersion
  | listCurrent
  | snapshot
  | save (path : String)
  | await (known : Datum)
  | submit (feed : Feed.Outcome)
  | applyLoop (rounds : List (List Action))
  | join
  | exportLoop (path : String) (refresh : Datum) (rounds : List (List Action))
deriving Inhabited

/-- What an action answers.  The rounds of a loop answer with reports on the actions
in them: the answer or fault of each, its notices, and the past clients of every
snapshot that was taken behind a write. -/
inductive Answer
  | nothing
  | flag (value : Bool)
  | count (value : Nat)
  | text (value : String)
  | raw (value : Datum)
  | rows (rows : List Row)
  | sighting (found : Option Sighting)
  | sightings (found : List Sighting)
  | purged (enabled : Bool) (removed : List Sighting)
  | live (clients : List LiveClient)
  | past (clients : List PastClient)
  | places (places : List (MacAddress × IpAddress))
  | published (value : JsonValue)
  | saved (text : Option (List Char)) (names : List String)
  | rounds (rounds :
      List (List (Except Fault Answer × List Notice × List (List MacAddress))))
  | applied (rounds :
      List (List (Except Fault Answer × List Notice × List (List MacAddress))))
      (fault : Option Fault)
  | exported (passes :
      List (Option (List Char) ×
        List (Except Fault Answer × List Notice × List (List MacAddress))))
      (text : Option (List Char))

/-- The report on an action. -/
abbrev Report := Except Fault Answer × List Notice × List (List MacAddress)

end Schedule

end LeaseRoster
