import LeaseRoster.Schedule.Session

/-!
# What a schedule leaves as it is

No action changes the configuration of a session, the clock moves only where it is set, and
a batch waits only where it was left.  So if every clock and every batch that a schedule
names, also in the rounds of its loops, is of a certain kind, then so are the clock and the
waiting batch of the session at every point of the schedule.
-/

namespace LeaseRoster

namespace Roster

theorem waiting_sight (write : Write) (roster : Roster) (lease : Lease) (now : Moment) :
    (roster.sight write lease now).roster.waiting = roster.waiting := by
  unfold sight
  split <;> rfl

theorem waiting_perform (write : Write) (roster : Roster) (step : Step) :
    (roster.perform write step).roster.waiting = roster.waiting := by
  cases step with
  | publish clients => rfl
  | sight lease now => exact waiting_sight write roster lease now
  | announce before after => rfl

end Roster

namespace Schedule

/-! ## Steady schedules -/

namespace Action

mutual

/-- Whether the clocks that an action sets and the batches that it leaves waiting are of
given kinds. -/
def isSteady (clock : Moment → Bool) (batch : List Lease → Bool) : Action → Bool
  | .setClock now => clock now
  | .submit feed => batch feed.leases
  | .purgeLoop _ _ rounds => areRoundsSteady clock batch rounds
  | .applyLoop rounds => areRoundsSteady clock batch rounds
  | .exportLoop _ _ rounds => areRoundsSteady clock batch rounds
  | _ => true

/-- Whether all of some actions are steady. -/
def areSteady (clock : Moment → Bool) (batch : List Lease → Bool) : List Action → Bool
  | [] => true
  | action :: rest => isSteady clock batch action && areSteady clock batch rest

/-- Whether the actions of all rounds are steady. -/
def areRoundsSteady (clock : Moment → Bool) (batch : List Lease → Bool) :
    List (List Action) → Bool
  | [] => true
  | round :: rest => areSteady clock batch round && areRoundsSteady clock batch rest

end

end Action

namespace Session

/-! ## Single actions -/

/-- One session comes from another one without a change of the configuration, the clock or
the waiting batch. -/
structure Frames (session next : Session) : Prop where
  reconciler : next.reconciler = session.reconciler
  clock : next.clock = session.clock
  waiting : next.roster.waiting = session.roster.waiting

namespace Frames

theorem refl (session : Session) : Frames session session := ⟨rfl, rfl, rfl⟩

theorem trans {session next last : Session} (first : Frames session next)
    (second : Frames next last) : Frames session last :=
  ⟨second.reconciler.trans first.reconciler, second.clock.trans first.clock,
    second.waiting.trans first.waiting⟩

end Frames

section Frame

variable (session : Session)

theorem frames_note (notices : List Notice) : Frames session (session.note notices) :=
  ⟨rfl, rfl, rfl⟩

theorem frames_withHistory (history : History) : Frames session (session.withHistory history) :=
  ⟨rfl, rfl, rfl⟩

theorem frames_answerFound {α : Type} (form : α → Answer)
    (found : Except Fault (History.Found α)) :
    Frames session (session.answerFound form found).1 := by
  cases found with
  | error fault => exact .refl session
  | ok found => exact session.frames_note found.notices

theorem frames_change (changed : Except Fault History) :
    Frames session (session.change changed).1 := by
  cases changed with
  | error fault => exact .refl session
  | ok history => exact session.frames_withHistory history

theorem frames_behindWrite : Frames session session.behindWrite := by
  unfold behindWrite
  split
  · exact ⟨rfl, rfl, rfl⟩
  · exact .refl session

theorem frames_behindStep (step : Roster.Step) (notices : List Notice) :
    Frames session (session.behindStep step notices) := by
  unfold behindStep
  split
  · split
    · exact session.frames_behindWrite
    · exact .refl session
  · exact .refl session

theorem frames_performAll (steps : List Roster.Step) :
    Frames session (session.performAll steps).1 := by
  induction steps generalizing session with
  | nil => exact .refl session
  | cons step rest ih =>
    rw [performAll]
    generalize performed :
      session.roster.perform (Roster.writeSighting session.reconciler.epoch) step = done
    have stepped : Frames session ({ session with roster := done.roster }.note done.notices) :=
      ⟨rfl, rfl, by
        change done.roster.waiting = _
        rw [← performed]
        exact Roster.waiting_perform _ _ _⟩
    split
    · exact stepped
    · exact (stepped.trans (frames_behindStep _ step done.notices)).trans (ih _)

theorem frames_update (feed : Feed.Outcome) (steps : List LiveClient → List Roster.Step) :
    Frames session (session.update feed steps).1 := by
  have noted := session.frames_note (feed.notices ++ session.reconciler.enrichNotices feed.leases)
  have performed := noted.trans (frames_performAll _ (steps (session.reconciler.enrich feed.leases)))
  unfold update
  dsimp only
  split
  next next done => rwa [done] at performed
  next next fault done => rwa [done] at performed

theorem frames_upsert (mac hostname : Datum) (lastSeen : Option Datum) (epoch : Datum) :
    Frames session (session.upsert mac hostname lastSeen epoch).1 := by
  unfold upsert
  split
  · exact (session.frames_withHistory _).trans (frames_behindWrite _)
  · exact .refl session

theorem frames_purge (retention : Option Duration) (now : Option Moment) :
    Frames session (session.purge retention now).1 := by
  unfold purge
  split
  · exact ⟨rfl, rfl, rfl⟩
  · exact .refl session

theorem frames_purgeOnce (retention : Option Duration) :
    Frames session (session.purgeOnce retention).1 := by
  unfold purgeOnce
  split
  · exact ⟨rfl, rfl, rfl⟩
  · exact .refl session

theorem frames_listPast (alive : List Datum) : Frames session (session.listPast alive).1 := by
  unfold listPast
  split
  · exact session.frames_answerFound _ _
  · exact .refl session

theorem frames_save (path : String) : Frames session (session.save path).1 := by
  unfold save
  dsimp only
  split <;> exact ⟨rfl, rfl, rfl⟩

theorem frames_awaitVersion (known : Datum) :
    Frames session (session.awaitVersion known).1 := by
  unfold awaitVersion
  split <;> exact .refl session

theorem frames_exportTurn (path : String) (refresh : Int) (remembered : Nat) :
    Frames session (session.exportTurn path refresh remembered).1 :=
  ⟨rfl, rfl, rfl⟩

end Frame

/-! ## Runs -/

/-- A session has a certain configuration, and its clock and its waiting batch are of given
kinds. -/
structure Steady (clock : Moment → Bool) (batch : List Lease → Bool) (reconciler : Reconciler)
    (session : Session) : Prop where
  configured : session.reconciler = reconciler
  clocked : clock session.clock = true
  waits : ∀ leases, session.roster.waiting = some leases → batch leases = true

section Run

variable {clock : Moment → Bool} {batch : List Lease → Bool} {reconciler : Reconciler}

theorem Frames.steady {session next : Session} (frames : Frames session next)
    (steady : session.Steady clock batch reconciler) : next.Steady clock batch reconciler where
  configured := frames.reconciler.trans steady.configured
  clocked := frames.clock ▸ steady.clocked
  waits := frames.waiting ▸ steady.waits

theorem Steady.submit {session : Session} (steady : session.Steady clock batch reconciler)
    {feed : Feed.Outcome} (kind : batch feed.leases = true) :
    (session.submit feed).1.Steady clock batch reconciler := by
  have noted := (session.frames_note feed.notices).steady steady
  unfold Session.submit
  dsimp only
  cases waiting : (session.note feed.notices).roster.waiting with
  | some leases =>
    simp only [Roster.submit, waiting]
    exact noted
  | none =>
    simp only [Roster.submit, waiting]
    exact ⟨noted.configured, noted.clocked, by rintro leases ⟨⟩; exact kind⟩

/-- A turn takes the waiting batch away. -/
theorem Steady.turn {session : Session} (steady : session.Steady clock batch reconciler) :
    session.turn.1.Steady clock batch reconciler := by
  unfold Session.turn
  cases waiting : session.roster.waiting with
  | none =>
    simp only [Roster.take?, waiting]
    exact steady
  | some leases =>
    simp only [Roster.take?, waiting, Option.map_some]
    have taken : ({ session with
        roster := { session.roster with waiting := none } } : Session).Steady
          clock batch reconciler :=
      ⟨steady.configured, steady.clocked, by rintro _ ⟨⟩⟩
    have applied := (frames_update _ ⟨leases, []⟩ (Roster.applySteps session.clock
      session.roster.published.length)).steady taken
    unfold Session.apply
    generalize update _ _ _ = done at applied ⊢
    obtain ⟨next, outcome⟩ := done
    have finished : ({ next with roster := next.roster.finish } : Session).Steady
        clock batch reconciler := ⟨applied.configured, applied.clocked, applied.waits⟩
    cases outcome <;> exact finished

mutual

theorem Steady.run {session : Session} (steady : session.Steady clock batch reconciler) :
    ∀ action : Action, action.isSteady clock batch = true →
      (session.run action).1.Steady clock batch reconciler
  | .refused _, _ => by rw [Session.run]; exact steady
  | .setClock now, kind => by
    rw [Session.run]
    rw [Action.isSteady] at kind
    exact ⟨steady.configured, kind, steady.waits⟩
  | .upsert _ _ _ _, _ => by rw [Session.run]; exact (frames_upsert _ _ _ _ _).steady steady
  | .insertRow _ _ _ _, _ => by rw [Session.run]; exact (frames_change _ _).steady steady
  | .listRows, _ => by rw [Session.run]; exact steady
  | .lookUp _, _ => by rw [Session.run]; exact (frames_answerFound _ _ _).steady steady
  | .listSightings, _ => by rw [Session.run]; exact (frames_answerFound _ _ _).steady steady
  | .purge _ _, _ => by rw [Session.run]; exact (frames_purge _ _ _).steady steady
  | .purgeOnce _, _ => by rw [Session.run]; exact (frames_purgeOnce _ _).steady steady
  | .purgeLoop retention interval rounds, kind => by
    rw [Session.run]
    rw [Action.isSteady] at kind
    have started := (session.frames_note [Purge.startNotice retention interval]).steady steady
    split
    · exact Steady.purgeRounds started retention [] rounds kind
    · exact started
  | .close, _ => by rw [Session.run]; exact (frames_withHistory _ _).steady steady
  | .reopen, _ => by rw [Session.run]; exact ⟨steady.configured, steady.clocked, steady.waits⟩
  | .enrich _ _, _ => by rw [Session.run]; exact (frames_update _ _ _).steady steady
  | .listPast _, _ => by rw [Session.run]; exact (frames_listPast _ _).steady steady
  | .friendlyName _ _, _ => by rw [Session.run]; exact steady
  | .staticAddress _ _, _ => by
    rw [Session.run]
    exact (frames_answerFound _ _ _).steady steady
  | .link _ _ _, _ => by rw [Session.run]; exact (frames_answerFound _ _ _).steady steady
  | .apply _, _ => by rw [Session.run]; exact (frames_update _ _ _).steady steady
  | .showVersion, _ => by rw [Session.run]; exact steady
  | .listCurrent, _ => by rw [Session.run]; exact steady
  | .snapshot, _ => by rw [Session.run]; exact (frames_note _ _).steady steady
  | .save _, _ => by rw [Session.run]; exact (frames_save _ _).steady steady
  | .await _, _ => by rw [Session.run]; exact (frames_awaitVersion _ _).steady steady
  | .submit _, kind => by
    rw [Session.run]
    rw [Action.isSteady] at kind
    exact steady.submit kind
  | .applyLoop rounds, kind => by
    rw [Session.run]
    rw [Action.isSteady] at kind
    exact Steady.applyRounds ((frames_note _ _).steady steady) [] rounds kind
  | .join, _ => by rw [Session.run]; exact steady
  | .exportLoop path refresh rounds, kind => by
    rw [Session.run]
    rw [Action.isSteady] at kind
    exact Steady.exportRounds steady path refresh 0 [] rounds kind

theorem Steady.runAll {session : Session} (steady : session.Steady clock batch reconciler) :
    ∀ actions : List Action, Action.areSteady clock batch actions = true →
      (session.runAll actions).2.Steady clock batch reconciler
  | [], _ => by rw [Session.runAll]; exact steady
  | action :: rest, kind => by
    rw [Action.areSteady, Bool.and_eq_true] at kind
    have next := Steady.run steady action kind.1
    have reported : (report (session.run action)).2.Steady clock batch reconciler :=
      ⟨next.configured, next.clocked, next.waits⟩
    rw [Session.runAll]
    exact Steady.runAll reported rest kind.2

theorem Steady.purgeRounds {session : Session} (steady : session.Steady clock batch reconciler)
    (retention : Option Duration) (reports : List (List Report)) :
    ∀ rounds : List (List Action), Action.areRoundsSteady clock batch rounds = true →
      (session.purgeRounds retention reports rounds).1.Steady clock batch reconciler
  | [], _ => by
    have purged := (session.frames_purgeOnce retention).steady steady
    rw [Session.purgeRounds]
    split
    next next fault done => rwa [done] at purged
    next next answer done => rwa [done] at purged
  | round :: rest, kind => by
    rw [Action.areRoundsSteady, Bool.and_eq_true] at kind
    have purged := (session.frames_purgeOnce retention).steady steady
    rw [Session.purgeRounds]
    split
    next next fault done => rwa [done] at purged
    next next answer done =>
      rw [done] at purged
      have after := Steady.runAll purged round kind.1
      exact Steady.purgeRounds after retention _ rest kind.2

theorem Steady.applyRounds {session : Session} (steady : session.Steady clock batch reconciler)
    (reports : List (List Report)) :
    ∀ rounds : List (List Action), Action.areRoundsSteady clock batch rounds = true →
      (session.applyRounds reports rounds).1.Steady clock batch reconciler
  | [], _ => by rw [Session.applyRounds]; exact steady
  | round :: rest, kind => by
    rw [Action.areRoundsSteady, Bool.and_eq_true] at kind
    have turned := (Steady.runAll steady round kind.1).turn
    rw [Session.applyRounds]
    dsimp only
    split
    next next done =>
      rw [done] at turned
      exact Steady.applyRounds turned _ rest kind.2
    next next fault done => rwa [done] at turned

theorem Steady.exportRounds {session : Session} (steady : session.Steady clock batch reconciler)
    (path : String) (refresh : Datum) (remembered : Nat)
    (passes : List (Option (List Char) × List Report)) :
    ∀ rounds : List (List Action), Action.areRoundsSteady clock batch rounds = true →
      (session.exportRounds path refresh remembered passes rounds).1.Steady
        clock batch reconciler
  | [], _ => by rw [Session.exportRounds]; exact steady
  | round :: rest, kind => by
    rw [Action.areRoundsSteady, Bool.and_eq_true] at kind
    have after := Steady.runAll steady round kind.1
    rw [Session.exportRounds]
    dsimp only
    split
    · exact after
    next seconds _ =>
      have exported := (frames_exportTurn _ path seconds remembered).steady after
      split
      next next _ fault done => rwa [done] at exported
      next next version done =>
        rw [done] at exported
        exact Steady.exportRounds exported path refresh version _ rest kind.2

end

end Run

end Session

end Schedule

end LeaseRoster
