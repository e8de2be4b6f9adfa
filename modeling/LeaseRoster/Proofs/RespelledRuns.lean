import LeaseRoster.Proofs.OtherSpellings
import LeaseRoster.Schedule.Session

/-!
# Runs over other spellings

Two runs do the same things, except that hardware addresses in their data are spelled
differently, each place for itself.  They leave the same session behind after every
action and answer the same.  Only notices and the wording of a fault of the history show
the spelling that was given; notices are not looked at again, and faults are compared
without it.
-/

namespace LeaseRoster

open Datum (Respelled RecordRespelled)

/-! ## Outcomes up to the spelling they show -/

/-- A task without the address that it names. -/
def HistoryTask.withoutMac : HistoryTask → HistoryTask
  | .upserting _ => .upserting ""
  | .querying _ => .querying ""
  | other => other

/-- A fault without the spelling that it shows. -/
def Fault.withoutMac : Fault → Fault
  | .history task cause => .history task.withoutMac cause
  | other => other

/-- Outcomes that agree, but for the spelling that a fault of the history shows. -/
def Alike {α : Type} (one other : Except Fault α) : Prop :=
  one.mapError Fault.withoutMac = other.mapError Fault.withoutMac

namespace Alike

variable {α β : Type}

theorem refl (outcome : Except Fault α) : Alike outcome outcome :=
  rfl

theorem cases {first second : Except Fault α} (alike : Alike first second) :
    first = second ∨ ∃ fault other, first = .error fault ∧ second = .error other ∧
      fault.withoutMac = other.withoutMac := by
  cases first with
  | error fault =>
    cases second with
    | error other => exact .inr ⟨fault, other, rfl, rfl, Except.error.inj alike⟩
    | ok value => cases alike
  | ok value =>
    cases second with
    | error other => cases alike
    | ok other => exact .inl (congrArg Except.ok (Except.ok.inj alike))

theorem of_error {fault other : Fault} (same : fault.withoutMac = other.withoutMac) :
    Alike (.error fault : Except Fault α) (.error other) :=
  congrArg Except.error same

theorem map {first second : Except Fault β} {transform : β → α} (alike : Alike first second) :
    Alike (first.map transform) (second.map transform) := by
  obtain rfl | ⟨fault, other, rfl, rfl, same⟩ := alike.cases
  · exact .refl _
  · exact of_error same

theorem bind {first second : Except Fault β} {next following : β → Except Fault α}
    (alike : Alike first second) (goesOn : ∀ value, Alike (next value) (following value)) :
    Alike (first >>= next) (second >>= following) := by
  obtain rfl | ⟨fault, other, rfl, rfl, same⟩ := alike.cases
  · cases first with
    | error fault => exact .refl _
    | ok value => exact goesOn value
  · exact of_error same

end Alike

/-! ## Single questions -/

namespace History

variable {one other : Datum}

theorem whenOpen_alike (history : History) {task other : HistoryTask}
    (same : task.withoutMac = other.withoutMac) :
    Alike (history.whenOpen task) (history.whenOpen other) := by
  unfold whenOpen
  split
  · exact .refl _
  · simp [Alike, Except.mapError, Fault.withoutMac, same]

theorem hostnameCell_alike (shown other : String) (hostname : Datum) :
    Alike (hostnameCell shown hostname) (hostnameCell other hostname) := by
  unfold hostnameCell
  split
  · rfl
  · exact .refl _

/-- An upsert puts the same row under the address, however it is spelled. -/
theorem upsert_respelled (history : History) (respelled : Respelled one other)
    (hostname lastSeen epoch : Datum) :
    Alike (history.upsert one hostname lastSeen epoch)
      (history.upsert other hostname lastSeen epoch) := by
  have opened : Alike (history.whenOpen (.upserting (String.ofList one.plain)))
      (history.whenOpen (.upserting (String.ofList other.plain))) :=
    whenOpen_alike history rfl
  unfold upsert
  rw [respelled.readMac]
  refine (Alike.refl _).bind fun address => ?_
  refine (Alike.refl _).bind fun stored => ?_
  refine (Alike.refl _).bind fun number => ?_
  exact opened.bind fun _ => (hostnameCell_alike _ _ _).bind fun cell => .refl _

theorem get_respelled (history : History) (respelled : Respelled one other) :
    Alike (history.get one) (history.get other) := by
  have opened : Alike (history.whenOpen (.querying (String.ofList one.plain)))
      (history.whenOpen (.querying (String.ofList other.plain))) :=
    whenOpen_alike history rfl
  unfold get
  rw [respelled.readMac]
  refine (Alike.refl _).bind fun address => ?_
  refine opened.bind fun _ => ?_
  cases history.rows.find? (hasKey (.text address.toString)) with
  | none => exact .refl _
  | some row =>
    dsimp only
    cases row.garbled? with
    | none => exact .refl _
    | some cause => rfl

end History

namespace Reconciler

theorem aliveOf_respelled {alive others : List Datum}
    (respelled : List.Forall₂ Respelled alive others) : aliveOf alive = aliveOf others := by
  induction respelled with
  | nil => rfl
  | cons datum _ ih => rw [aliveOf, aliveOf, datum.macKey, ih]

theorem rawFriendlyName_respelled (reconciler : Reconciler) {one other : Datum}
    (respelled : Respelled one other) (hostname : Datum) :
    reconciler.rawFriendlyName one hostname = reconciler.rawFriendlyName other hostname := by
  rw [rawFriendlyName, rawFriendlyName, respelled.macKey]

theorem rawStatic_respelled (reconciler : Reconciler) (address : Datum) {one other : Datum}
    (respelled : Respelled one other) :
    (reconciler.rawStatic address one).map History.Found.value =
      (reconciler.rawStatic address other).map History.Found.value := by
  unfold rawStatic
  rw [respelled.macKey]
  split
  next => rfl
  next reservation _ =>
    cases Registry.macKey other with
    | error fault => rfl
    | ok key =>
      by_cases reserved : key = some reservation.mac <;>
        simp [reserved, Except.map, bind, Except.bind, pure, Except.pure]

end Reconciler

/-! ## Schedules -/

namespace Schedule

namespace Session

/-- A session without the notices that its next report will have. -/
def quiet (session : Session) : Session := { session with pending := [] }

theorem quiet_behindStep (session : Session) (step : Roster.Step) (notices : List Notice) :
    (session.behindStep step notices).quiet =
      (session.quiet.behindStep step notices).quiet := by
  have behindWrite : session.behindWrite.quiet = session.quiet.behindWrite.quiet := by
    unfold Session.behindWrite
    split
    next looks => rw [if_pos (show session.quiet.looksBehindWrites = true from looks)]; rfl
    next passes => rw [if_neg (show ¬session.quiet.looksBehindWrites = true from passes)]; rfl
  unfold behindStep
  split
  · split
    · exact behindWrite
    · rfl
  · rfl

/-- The steps of an update never look at the notices that are pending. -/
theorem quiet_performAll (session : Session) (steps : List Roster.Step) :
    (session.performAll steps).1.quiet = (session.quiet.performAll steps).1.quiet ∧
      (session.performAll steps).2 = (session.quiet.performAll steps).2 := by
  induction steps generalizing session with
  | nil => exact ⟨rfl, rfl⟩
  | cons step rest ih =>
    rw [performAll, performAll]
    have performed :
        session.quiet.roster.perform
            (Roster.writeSighting session.quiet.reconciler.epoch) step =
          session.roster.perform (Roster.writeSighting session.reconciler.epoch) step :=
      rfl
    rw [performed]
    generalize
      session.roster.perform (Roster.writeSighting session.reconciler.epoch) step = done
    let next := { session with roster := done.roster }.note done.notices
    let quietNext := { session.quiet with roster := done.roster }.note done.notices
    have behind : (next.behindStep step done.notices).quiet =
        (quietNext.behindStep step done.notices).quiet :=
      (quiet_behindStep next step done.notices).trans
        (quiet_behindStep quietNext step done.notices).symm
    cases done.fault with
    | some fault => exact ⟨rfl, rfl⟩
    | none =>
      obtain ⟨state, stop⟩ := ih (next.behindStep step done.notices)
      obtain ⟨quietState, quietStop⟩ := ih (quietNext.behindStep step done.notices)
      rw [behind] at state stop
      exact ⟨state.trans quietState.symm, stop.trans quietStop.symm⟩

end Session

/-- Actions that come to the same: the answers are alike, and only the notices that
are pending may differ in what is left. -/
structure Done.Alike (first second : Done) : Prop where
  session : first.1.quiet = second.1.quiet
  answer : LeaseRoster.Alike first.2 second.2

/-- Reports that are alike in their answers, and the same in what was seen behind
writes. -/
structure Report.Alike (first second : Report) : Prop where
  answer : LeaseRoster.Alike first.1 second.1
  seen : first.2.2 = second.2.2

theorem Done.Alike.refl (done : Done) : Done.Alike done done :=
  ⟨rfl, .refl _⟩

/-- The report on an action takes what is pending out of the session. -/
theorem Done.Alike.report {first second : Done} (alike : Done.Alike first second) :
    (Session.report first).2 = (Session.report second).2 ∧
      Report.Alike (Session.report first).1 (Session.report second).1 := by
  have quiet := alike.session
  refine ⟨?_, alike.answer, ?_⟩
  · exact congrArg (fun session : Session => { session with seen := [] }) quiet
  · exact (congrArg Session.seen quiet :)

namespace Action

/-- An action on a feed that has been read, or the fault of its reading. -/
def feeding (use : Feed.Outcome → Action) : Except Fault Feed.Outcome → Action
  | .ok feed => use feed
  | .error fault => .refused fault

/-- An action, or the same one with addresses in its data spelled differently. -/
inductive Respelled : Action → Action → Prop
  | same (action : Action) : Respelled action action
  | upsert {mac other : Datum} (respelled : Datum.Respelled mac other) (hostname : Datum)
      (lastSeen : Option Datum) (epoch : Datum) :
      Respelled (.upsert mac hostname lastSeen epoch) (.upsert other hostname lastSeen epoch)
  | lookUp {mac other : Datum} (respelled : Datum.Respelled mac other) :
      Respelled (.lookUp mac) (.lookUp other)
  | listPast {alive others : List Datum}
      (respelled : List.Forall₂ Datum.Respelled alive others) :
      Respelled (.listPast alive) (.listPast others)
  | friendlyName {mac other : Datum} (respelled : Datum.Respelled mac other)
      (hostname : Datum) : Respelled (.friendlyName mac hostname) (.friendlyName other hostname)
  | staticAddress (address : Datum) {mac other : Datum}
      (respelled : Datum.Respelled mac other) :
      Respelled (.staticAddress address mac) (.staticAddress address other)
  | enrich {reading other : Except Fault Feed.Outcome}
      (respelled : Feed.ReadingRespelled reading other) (tracked : Bool) :
      Respelled (feeding (.enrich · tracked) reading) (feeding (.enrich · tracked) other)
  | apply {reading other : Except Fault Feed.Outcome}
      (respelled : Feed.ReadingRespelled reading other) :
      Respelled (feeding .apply reading) (feeding .apply other)
  | submit {reading other : Except Fault Feed.Outcome}
      (respelled : Feed.ReadingRespelled reading other) :
      Respelled (feeding .submit reading) (feeding .submit other)

end Action

namespace Session

variable (session : Session)

theorem update_alike {feed other : Feed.Outcome} (leases : feed.leases = other.leases)
    (steps : List LiveClient → List Roster.Step) :
    Done.Alike (session.update feed steps) (session.update other steps) := by
  unfold update
  rw [← leases]
  dsimp only
  generalize steps (session.reconciler.enrich feed.leases) = performed
  generalize feed.notices ++ session.reconciler.enrichNotices feed.leases = first
  generalize other.notices ++ session.reconciler.enrichNotices feed.leases = second
  obtain ⟨state, stop⟩ := quiet_performAll (session.note first) performed
  obtain ⟨otherState, otherStop⟩ := quiet_performAll (session.note second) performed
  have quiet : (session.note first).quiet = (session.note second).quiet := rfl
  rw [quiet] at state stop
  rw [← otherState] at state
  rw [← otherStop] at stop
  generalize (session.note first).performAll performed = done at state stop ⊢
  generalize (session.note second).performAll performed = otherDone at state stop ⊢
  obtain ⟨next, fault⟩ := done
  obtain ⟨otherNext, otherFault⟩ := otherDone
  obtain rfl : fault = otherFault := stop
  cases fault with
  | none => exact ⟨state, .refl _⟩
  | some fault => exact ⟨state, .refl _⟩

theorem submit_alike {feed other : Feed.Outcome} (leases : feed.leases = other.leases) :
    Done.Alike (session.submit feed) (session.submit other) := by
  have roster : (session.note feed.notices).roster = (session.note other.notices).roster := rfl
  unfold submit
  dsimp only
  rw [roster, leases]
  cases (session.note other.notices).roster.submit other.leases with
  | ok roster => exact ⟨rfl, .refl _⟩
  | error fault => exact ⟨rfl, .refl _⟩

theorem upsert_alike {mac other : Datum} (respelled : Datum.Respelled mac other)
    (hostname : Datum) (lastSeen : Option Datum) (epoch : Datum) :
    Done.Alike (session.upsert mac hostname lastSeen epoch)
      (session.upsert other hostname lastSeen epoch) := by
  have written := session.roster.history.upsert_respelled respelled hostname
    (lastSeen.getD (.moment session.clock)) epoch
  unfold upsert
  obtain same | ⟨fault, otherFault, failed, otherFailed, same⟩ := written.cases
  · rw [same]
    exact .refl _
  · rw [failed, otherFailed]
    exact ⟨rfl, .of_error same⟩

theorem answerFound_alike {α : Type} (form : α → Answer)
    {first second : Except Fault (History.Found α)}
    (alike : LeaseRoster.Alike (first.map History.Found.value)
      (second.map History.Found.value)) :
    Done.Alike (session.answerFound form first) (session.answerFound form second) := by
  cases first with
  | error fault =>
    cases second with
    | error other => exact ⟨rfl, .of_error (Except.error.inj alike)⟩
    | ok found => cases alike
  | ok found =>
    cases second with
    | error other => cases alike
    | ok other =>
      have value : found.value = other.value := Except.ok.inj alike
      exact ⟨rfl, by rw [answerFound, answerFound, value]; exact .refl _⟩

theorem feeding_alike {use : Feed.Outcome → Action}
    (useAlike : ∀ feed other : Feed.Outcome, feed.leases = other.leases →
      Done.Alike (session.run (use feed)) (session.run (use other)))
    {reading other : Except Fault Feed.Outcome}
    (respelled : Feed.ReadingRespelled reading other) :
    Done.Alike (session.run (.feeding use reading)) (session.run (.feeding use other)) := by
  have leases := respelled.leases
  cases reading with
  | error fault =>
    cases other with
    | error fault' =>
      obtain rfl : fault = fault' := Except.error.inj leases
      exact .refl _
    | ok feed => cases leases
  | ok feed =>
    cases other with
    | error fault => cases leases
    | ok other => exact useAlike feed other (Except.ok.inj leases)

theorem run_respelled {action other : Action} (respelled : action.Respelled other) :
    Done.Alike (session.run action) (session.run other) := by
  cases respelled with
  | same => exact .refl _
  | upsert respelled hostname lastSeen epoch =>
    rw [run, run]
    exact session.upsert_alike respelled hostname lastSeen epoch
  | lookUp respelled =>
    rw [run, run]
    exact session.answerFound_alike _ (session.roster.history.get_respelled respelled).map
  | listPast respelled =>
    rw [run, run, listPast, listPast, Reconciler.aliveOf_respelled respelled]
    exact .refl _
  | friendlyName respelled hostname =>
    rw [run, run, Reconciler.rawFriendlyName_respelled _ respelled]
    exact .refl _
  | staticAddress address respelled =>
    rw [run, run]
    refine session.answerFound_alike _ ?_
    rw [session.reconciler.rawStatic_respelled address respelled]
    exact .refl _
  | enrich respelled tracked =>
    refine session.feeding_alike (fun feed other leases => ?_) respelled
    rw [run, run]
    exact session.update_alike leases _
  | apply respelled =>
    refine session.feeding_alike (fun feed other leases => ?_) respelled
    rw [run, run]
    exact session.update_alike leases _
  | submit respelled =>
    refine session.feeding_alike (fun feed other leases => ?_) respelled
    rw [run, run]
    exact session.submit_alike leases

/-- Runs of respelled actions leave the same session and report alike on each. -/
theorem runAll_respelled {actions others : List Action}
    (respelled : List.Forall₂ Action.Respelled actions others) :
    (session.runAll actions).2 = (session.runAll others).2 ∧
      List.Forall₂ Report.Alike (session.runAll actions).1 (session.runAll others).1 := by
  induction respelled generalizing session with
  | nil => exact ⟨rfl, .nil⟩
  | @cons action other actions others first _ ih =>
    rw [runAll, runAll]
    obtain ⟨state, alike⟩ := (session.run_respelled first).report
    generalize report (session.run action) = reported at state alike ⊢
    generalize report (session.run other) = otherReported at state alike ⊢
    obtain ⟨answer, next⟩ := reported
    obtain ⟨otherAnswer, otherNext⟩ := otherReported
    obtain rfl : next = otherNext := state
    obtain ⟨last, reports⟩ := ih next
    exact ⟨last, .cons alike reports⟩

end Session

end Schedule

/-! ## The spelling never shows -/

/-- Every usual spelling is read as its address.  Addresses spelled differently, each
place for itself, give the same records and the same registry, lookups find the same in
it, and a run of actions leaves the same session behind: the rows of the history, the
published clients, the files.  The answers are the same as well, but for the spelling
that a fault of the history shows. -/
theorem spelling_never_shows
    {reservations otherReservations names otherNames : List Datum}
    (reserved : List.Forall₂ RecordRespelled reservations otherReservations)
    (named : List.Forall₂ RecordRespelled names otherNames)
    {actions others : List Schedule.Action}
    (respelled : List.Forall₂ Schedule.Action.Respelled actions others) :
    (∀ mac text, MacAddress.IsSpelling mac text → MacAddress.read? text = some mac) ∧
      (∀ record other, RecordRespelled record other →
        Reservation.read record = Reservation.read other ∧
          FriendlyName.read record = FriendlyName.read other ∧
          Lease.read record = Lease.read other ∧
          Sighting.read record = Sighting.read other) ∧
      Registry.ofData reservations names = Registry.ofData otherReservations otherNames ∧
      (∀ key otherKey, Respelled key otherKey → ∀ registry : Registry,
        (Registry.macKey key).map registry.forMac =
            (Registry.macKey otherKey).map registry.forMac ∧
          (Registry.macKey key).map registry.nameFor =
            (Registry.macKey otherKey).map registry.nameFor) ∧
      ∀ session : Schedule.Session,
        (session.runAll actions).2 = (session.runAll others).2 ∧
          List.Forall₂ Schedule.Report.Alike (session.runAll actions).1
            (session.runAll others).1 := by
  refine ⟨fun mac text => MacAddress.read?_of_isSpelling, ?_,
    Registry.ofData_respelled reserved named, ?_, ?_⟩
  · intro record other respelled
    exact ⟨Reservation.read_respelled respelled, FriendlyName.read_respelled respelled,
      Lease.read_respelled respelled, Sighting.read_respelled respelled⟩
  · intro key otherKey respelled registry
    rw [respelled.macKey]
    exact ⟨rfl, rfl⟩
  · intro session
    exact session.runAll_respelled respelled

/-- A reservation, or a lease, of one internet address under some spelling of a hardware
address. -/
private def held (spelling : String) : Datum :=
  .mapping [(.text "mac", .text spelling), (.text "ip", .text "10.0.0.5")]

/-- A client that is seen, looked up, listed as past and published as live. -/
private def visits (seen soughtAs aliveAs leasedAs : String) : List Schedule.Action :=
  [.upsert (.text seen) (.text "nas") none (.whole 3), .lookUp (.text soughtAs),
    .listPast [.text aliveAs], .feeding .apply (Feed.leasesOfRecords [held leasedAs])]

private theorem held_respelled {one other : String}
    (respelled : Respelled (.text one) (.text other)) :
    RecordRespelled (held one) (held other) :=
  .mapping (.cons (.mac respelled) (.cons (.same _) .nil))

theorem one_address_in_many_spellings :
    Registry.ofData [held "AA-BB-CC-DD-EE-FF"] [] = Registry.ofData [held "aabb.ccdd.eeff"] [] ∧
      ∀ session : Schedule.Session,
        (session.runAll
            (visits "aabbccddeeff" "aa:bb:cc:dd:ee:ff" " AABBCCDDEEFF\t" "A.Abb:cc-dd:EEff")).2 =
          (session.runAll
            (visits "AA:BB:CC:DD:EE:FF" "aabb.ccdd.eeff" "aA-bB-cC-dD-eE-fF" "aabbccddeeff")).2 := by
  have sameAddress {one other : String}
      (reads : (MacAddress.read? one.toList).isSome = true)
      (same : MacAddress.read? other.toList = MacAddress.read? one.toList) :
      Respelled (.text one) (.text other) := by
    obtain ⟨mac, read⟩ := Option.isSome_iff_exists.mp reads
    exact .spelled read (same.trans read)
  have reserved :
      List.Forall₂ RecordRespelled [held "AA-BB-CC-DD-EE-FF"] [held "aabb.ccdd.eeff"] :=
    .cons (held_respelled (sameAddress (by decide) (by decide))) .nil
  have leased :
      List.Forall₂ RecordRespelled [held "A.Abb:cc-dd:EEff"] [held "aabbccddeeff"] :=
    .cons (held_respelled (sameAddress (by decide) (by decide))) .nil
  have visited : List.Forall₂ Schedule.Action.Respelled
      (visits "aabbccddeeff" "aa:bb:cc:dd:ee:ff" " AABBCCDDEEFF\t" "A.Abb:cc-dd:EEff")
      (visits "AA:BB:CC:DD:EE:FF" "aabb.ccdd.eeff" "aA-bB-cC-dD-eE-fF" "aabbccddeeff") :=
    .cons (.upsert (sameAddress (by decide) (by decide)) _ _ _)
      (.cons (.lookUp (sameAddress (by decide) (by decide)))
        (.cons (.listPast (.cons (sameAddress (by decide) (by decide)) .nil))
          (.cons (.apply (.records leased)) .nil)))
  obtain ⟨-, -, registry, -, runs⟩ := spelling_never_shows reserved .nil visited
  exact ⟨registry, fun session => (runs session).1⟩

end LeaseRoster
