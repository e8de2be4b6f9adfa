import LeaseRoster.History.Store

/-!
# Forgetting past clients

A purge runs again and again while the service is up, provided that a retention is
configured.  A store that fails is reported and tried again at the next turn.
-/

namespace LeaseRoster

namespace Purge

/-- The outcome of one turn. -/
structure Turn where
  history : History
  removed : List Sighting
  notices : List Notice

/-- The notice of what a turn removed, if it removed anything. -/
def removedNotices (retention : Option Duration) (removed : List Sighting) :
    List Notice :=
  if removed.isEmpty then [] else [.purged removed retention]

/-- One turn of the purge. -/
def once (history : History) (retention : Option Duration) (now : Moment) :
    Except Fault Turn :=
  if History.asksForPurge retention then
    match history.purgeOlderThan retention now with
    | .ok purged =>
      .ok ⟨purged.history, purged.removed,
        purged.notices ++ removedNotices retention purged.removed⟩
    | .error (.history task cause) =>
      .ok ⟨history, [], [.purgeFailed (.history task cause)]⟩
    | .error fault => .error fault
  else .ok ⟨history, [], []⟩

/-- The notice with which the purge begins, or declines to. -/
def startNotice (retention : Option Duration) (interval : Datum) : Notice :=
  if History.asksForPurge retention then .purgeStarted retention interval
  else .purgeDisabled

end Purge

end LeaseRoster
