import LeaseRoster.Feed.Watch
import LeaseRoster.Proofs.FeedLines

/-!
# Looks that the lease file changes under

A look at the lease file takes its steps one by one: it takes the stamp, asks whether
the file exists, reads it, and hands on what it read.  Between any two steps the file
may be written, deleted or created again, and the reading may fail.  This file runs
the steps of looks together with such changes.  The invariant ties the stamp that the
watcher remembers to the latest batch: they belong together whenever the file bears
that stamp, because the stamp is taken before the reading and kept only behind it.
-/

namespace LeaseRoster

/-! ## The parts of a look -/

namespace LeaseFile

theorem leases_file (changed : Int) (bytes : List UInt8) :
    ∃ outcome, (LeaseFile.file changed bytes).leases = .ok outcome :=
  ⟨_, Feed.leasesOfText_eq _⟩

/-- Reading fails only as a file can fail, never over what stands in it. -/
theorem isSystem_of_leases {file : LeaseFile} {fault : Fault}
    (failed : file.leases = .error fault) : fault.isSystem = true := by
  cases file with
  | missing => cases failed; rfl
  | directory changed size => cases failed; rfl
  | file changed bytes =>
    obtain ⟨outcome, read⟩ := leases_file changed bytes
    rw [read] at failed
    cases failed

theorem exists?_of_stamp? {file : LeaseFile} {stamp : FileStamp}
    (stamped : file.stamp? = some stamp) : file.exists? = true := by
  cases file with
  | missing => cases stamped
  | directory changed size => rfl
  | file changed bytes => rfl

end LeaseFile

namespace Feed

theorem readLeases_of_stamp? {file : LeaseFile} {stamp : FileStamp}
    (path : String) (stamped : file.stamp? = some stamp) :
    readLeases path file file = file.leases := by
  simp [readLeases, LeaseFile.exists?_of_stamp? stamped]

end Feed

namespace Watcher

/-- Whether a look is over as soon as the stamp is taken. -/
def declines (watcher : Watcher) (force : Bool) (stamp : Option FileStamp) : Bool :=
  !force && stamp == watcher.remembered

/-- What a look comes to once the reading is over, for better or worse. -/
def conclude (watcher : Watcher) (stamp : Option FileStamp) :
    Except Fault Feed.Outcome → Look
  | .ok outcome => watcher.accept stamp outcome
  | .error fault =>
    if fault.isSystem then
      ⟨watcher, none, [.leaseFileUnreadable watcher.path fault], none⟩
    else ⟨watcher, none, [], some fault⟩

theorem lookAt_eq (watcher : Watcher) (force : Bool)
    (atStamp atTest atReading : LeaseFile) :
    watcher.lookAt force atStamp atTest atReading =
      if watcher.declines force atStamp.stamp? then ⟨watcher, none, [], none⟩
      else
        watcher.conclude atStamp.stamp?
          (Feed.readLeases watcher.path atTest atReading) :=
  rfl

theorem declines_iff {watcher : Watcher} {force : Bool} {stamp : Option FileStamp} :
    watcher.declines force stamp = true ↔
      force = false ∧ stamp = watcher.remembered := by
  simp [declines]

/-- What a look answers. -/
def Look.answer (look : Look) : Except Fault Bool :=
  match look.fault with
  | some fault => .error fault
  | none => .ok look.submitted.isSome

end Watcher

/-! ## Looks step by step -/

namespace Stepwise

/-- A fault that the system may raise when a file is read. -/
abbrev SystemFault := { fault : Fault // fault.isSystem = true }

/-- How far a look has come. -/
inductive Stage
  | resting
  | stamped (stamp : Option FileStamp)
  | tested (stamp : Option FileStamp) (atTest : LeaseFile)
  | holding (leases : List Lease)

instance (stage : Stage) : Decidable (stage = .resting) :=
  match stage with
  | .resting => .isTrue rfl
  | .stamped _ => .isFalse nofun
  | .tested _ _ => .isFalse nofun
  | .holding _ => .isFalse nofun

/-- The stamp that a look has taken and not yet settled. -/
def Stage.stamp? : Stage → Option FileStamp
  | .stamped stamp => stamp
  | .tested stamp _ => stamp
  | _ => none

/-- How far a look at a file that stays as it is can have come. -/
def Stage.Fits (file : LeaseFile) (outcome : Feed.Outcome) : Stage → Prop
  | .resting => True
  | .stamped stamp => stamp = file.stamp?
  | .tested stamp atTest => stamp = file.stamp? ∧ atTest = file
  | .holding leases => leases = outcome.leases

/-- The file and its watcher in the course of a look, with the batches handed on and
the answers of the looks so far. -/
structure Scene where
  file : LeaseFile
  watcher : Watcher
  stage : Stage
  handedOn : List (List Lease)
  answers : List (Except Fault Bool)

/-- A change of the file, the first step of a look, or the next step of the look under
way, where the reading may break off with a fault of the system. -/
inductive Event
  | change (file : LeaseFile)
  | look (force : Bool)
  | proceed (broken : Option SystemFault)

namespace Event

/-- The stamp that a change gives the file. -/
def stamp? : Event → Option FileStamp
  | .change file => file.stamp?
  | _ => none

def isChange : Event → Bool
  | .change _ => true
  | _ => false

def isLook : Event → Bool
  | .look _ => true
  | _ => false

end Event

namespace Scene

/-- The watcher before its first look. -/
def start (path : String) (file : LeaseFile) : Scene :=
  ⟨file, Watcher.start path, .resting, [], []⟩

/-- The end of a look that hands nothing on. -/
def rest (scene : Scene) (answer : Except Fault Bool) : Scene :=
  { scene with stage := .resting, answers := scene.answers ++ [answer] }

/-- The batch handed on last, or about to be. -/
def latest? (scene : Scene) : Option (List Lease) :=
  match scene.stage with
  | .holding leases => some leases
  | _ => scene.handedOn.getLast?

/-- What the reading gives.  Only a file that is really read can break off. -/
def reading (scene : Scene) (atTest : LeaseFile) :
    Option SystemFault → Except Fault Feed.Outcome
  | none => Feed.readLeases scene.watcher.path atTest scene.file
  | some broken =>
    if atTest.exists? then .error broken.val
    else Feed.readLeases scene.watcher.path atTest scene.file

/-- The scene behind the reading: the watcher remembers what it should, and either
holds a batch or is through with its look. -/
def conclude (scene : Scene) (look : Watcher.Look) : Scene :=
  match look.fault, look.submitted with
  | none, some leases => { scene with watcher := look.watcher, stage := .holding leases }
  | _, _ => { scene with watcher := look.watcher }.rest look.answer

/-- The first step of a look, unless one is under way. -/
def look (scene : Scene) (force : Bool) : Scene :=
  match scene.stage with
  | .resting =>
    if scene.watcher.declines force scene.file.stamp? then scene.rest (.ok false)
    else { scene with stage := .stamped scene.file.stamp? }
  | _ => scene

/-- The next step of the look under way, if there is one. -/
def proceed (scene : Scene) (broken : Option SystemFault) : Scene :=
  match scene.stage with
  | .resting => scene
  | .stamped stamp => { scene with stage := .tested stamp scene.file }
  | .tested stamp atTest =>
    scene.conclude (scene.watcher.conclude stamp (scene.reading atTest broken))
  | .holding leases =>
    { scene with handedOn := scene.handedOn ++ [leases] }.rest (.ok true)

def next (scene : Scene) : Event → Scene
  | .change file => { scene with file }
  | .look force => scene.look force
  | .proceed broken => scene.proceed broken

def run (scene : Scene) (events : List Event) : Scene :=
  events.foldl next scene

@[simp]
theorem run_nil (scene : Scene) : scene.run [] = scene :=
  rfl

@[simp]
theorem run_cons (scene : Scene) (event : Event) (events : List Event) :
    scene.run (event :: events) = (scene.next event).run events :=
  rfl

theorem run_append (scene : Scene) (first second : List Event) :
    scene.run (first ++ second) = (scene.run first).run second := by
  simp [run]

/-! ## A whole look -/

/-- The scene behind a whole look. -/
def after (scene : Scene) (file : LeaseFile) (look : Watcher.Look) : Scene :=
  ⟨file, look.watcher, .resting, scene.handedOn ++ look.submitted.toList,
    scene.answers ++ [look.answer]⟩

theorem proceed_conclude (scene : Scene) (stamp : Option FileStamp)
    (reading : Except Fault Feed.Outcome) :
    (scene.conclude (scene.watcher.conclude stamp reading)).proceed none =
      scene.after scene.file (scene.watcher.conclude stamp reading) := by
  cases reading with
  | ok outcome => rfl
  | error fault =>
    cases kind : fault.isSystem <;>
      simp [Watcher.conclude, kind, conclude, rest, proceed, after,
        Watcher.Look.answer]

/-- The steps of a look make up the look, whatever the file becomes meanwhile. -/
theorem run_changing_look {scene : Scene} (resting : scene.stage = .resting)
    (force : Bool) (atTest atReading : LeaseFile) :
    scene.run [.look force, .change atTest, .proceed none, .change atReading,
        .proceed none, .proceed none] =
      scene.after atReading
        (scene.watcher.lookAt force scene.file atTest atReading) := by
  rw [Watcher.lookAt_eq]
  cases declined : scene.watcher.declines force scene.file.stamp? with
  | true =>
    simp [next, look, resting, declined, rest, proceed, after, Watcher.Look.answer]
  | false =>
    have stepped : scene.run [.look force, .change atTest, .proceed none,
        .change atReading] =
        { scene with file := atReading, stage := .tested scene.file.stamp? atTest } := by
      simp [next, look, resting, declined, proceed]
    have split : scene.run [.look force, .change atTest, .proceed none,
        .change atReading, .proceed none, .proceed none] =
        (scene.run [.look force, .change atTest, .proceed none,
          .change atReading]).run [.proceed none, .proceed none] :=
      run_append scene [_, _, _, _] [_, _]
    rw [split, stepped]
    exact proceed_conclude
      { scene with file := atReading, stage := .tested scene.file.stamp? atTest } _ _

/-- The steps of a look during which the file stays as it is. -/
def wholeLook (force : Bool) : List Event :=
  [.look force, .proceed none, .proceed none, .proceed none]

@[simp]
theorem look_file (scene : Scene) (force : Bool) : (scene.look force).file = scene.file := by
  unfold look
  split
  · split <;> rfl
  · rfl

theorem conclude_file (scene : Scene) (look : Watcher.Look) :
    (scene.conclude look).file = scene.file := by
  unfold conclude
  split <;> rfl

@[simp]
theorem proceed_file (scene : Scene) (broken : Option SystemFault) :
    (scene.proceed broken).file = scene.file := by
  unfold proceed
  split
  · rfl
  · rfl
  · exact conclude_file ..
  · rfl

theorem run_wholeLook {scene : Scene} (resting : scene.stage = .resting)
    (force : Bool) :
    scene.run (wholeLook force) =
      scene.after scene.file (scene.watcher.look force scene.file) := by
  have unchanged (other : Scene) (same : other.file = scene.file) :
      other.next (.change scene.file) = other := by
    rw [← same]
    rfl
  have steps := run_changing_look resting force scene.file scene.file
  simp only [run_cons, run_nil] at steps
  rw [unchanged (scene.next (.look force)) (look_file ..), unchanged] at steps
  · exact steps
  · exact (proceed_file ..).trans (look_file ..)

/-! ## What the watcher remembers -/

/-- How the watcher stands to the file, when `seen` are the stamps that the file has
borne so far. -/
structure Tracks (seen : List FileStamp) (scene : Scene) : Prop where
  current : ∀ stamp, scene.file.stamp? = some stamp → stamp ∈ seen
  remembered : ∀ stamp, scene.watcher.remembered = some stamp → stamp ∈ seen
  taken : ∀ stamp, scene.stage.stamp? = some stamp → stamp ∈ seen
  undisturbed : ∀ stamp atTest, scene.stage = .tested (some stamp) atTest →
    scene.file.stamp? = some stamp → atTest = scene.file
  settled : ∀ stamp, scene.watcher.remembered = some stamp →
    scene.file.stamp? = some stamp → ∃ outcome, scene.file.leases = .ok outcome ∧
      scene.latest? = some outcome.leases

namespace Tracks

variable {seen : List FileStamp} {scene : Scene}

theorem start (path : String) (file : LeaseFile) :
    Tracks file.stamp?.toList (.start path file) where
  current stamp stamped := by
    have stamped : file.stamp? = some stamp := stamped
    simp [stamped]
  remembered stamp known := by cases known
  taken stamp known := by cases known
  undisturbed stamp atTest staged := by cases staged
  settled stamp known := by cases known

/-- A change of the file leaves nothing remembered about the new file: its stamp has
not been borne before. -/
theorem change (tracks : Tracks seen scene) {file : LeaseFile}
    (fresh : ∀ stamp, file.stamp? = some stamp → stamp ∉ seen) :
    Tracks (seen ++ file.stamp?.toList) { scene with file } where
  current stamp stamped := by
    have stamped : file.stamp? = some stamp := stamped
    simp [stamped]
  remembered stamp known := List.mem_append_left _ (tracks.remembered stamp known)
  taken stamp known := List.mem_append_left _ (tracks.taken stamp known)
  undisturbed stamp atTest staged stamped := by
    have staged : scene.stage = .tested (some stamp) atTest := staged
    have known : stamp ∈ seen := tracks.taken stamp (by rw [staged]; rfl)
    exact absurd known (fresh stamp stamped)
  settled stamp known stamped :=
    absurd (tracks.remembered stamp known) (fresh stamp stamped)

/-- A step that touches neither the file nor the watcher has only its stage to answer
for, as long as the latest batch stays the latest. -/
theorem restage (tracks : Tracks seen scene) {later : Scene}
    (file : later.file = scene.file) (watcher : later.watcher = scene.watcher)
    (latest : later.latest? = scene.latest?)
    (taken : ∀ stamp, later.stage.stamp? = some stamp → stamp ∈ seen)
    (undisturbed : ∀ stamp atTest, later.stage = .tested (some stamp) atTest →
      atTest = scene.file) :
    Tracks seen later where
  current := file ▸ tracks.current
  remembered := watcher ▸ tracks.remembered
  taken := taken
  undisturbed stamp atTest staged _ := file ▸ undisturbed stamp atTest staged
  settled := by
    rw [file, watcher, latest]
    exact tracks.settled

theorem rest (tracks : Tracks seen scene) (answer : Except Fault Bool)
    (idle : scene.latest? = scene.handedOn.getLast?) :
    Tracks seen (scene.rest answer) :=
  tracks.restage rfl rfl idle.symm (fun _ known => by cases known)
    (fun _ _ staged => by cases staged)

theorem look (tracks : Tracks seen scene) (force : Bool) :
    Tracks seen (scene.look force) := by
  unfold Scene.look
  split
  next resting =>
    have idle : scene.latest? = scene.handedOn.getLast? := by simp [latest?, resting]
    split
    · exact tracks.rest _ idle
    · exact tracks.restage rfl rfl idle.symm tracks.current
        (fun _ _ staged => by cases staged)
  next => exact tracks

/-- The one step at which the watcher comes to remember a stamp.  If the file still
bears the stamp, then it has not changed since the stamp was taken, so what was read
is what stands there. -/
theorem conclude (tracks : Tracks seen scene) {stamp : Option FileStamp}
    {atTest : LeaseFile} (staged : scene.stage = .tested stamp atTest)
    (broken : Option SystemFault) :
    Tracks seen
      (scene.conclude (scene.watcher.conclude stamp (scene.reading atTest broken))) := by
  cases read : scene.reading atTest broken with
  | error fault =>
    have idle : scene.latest? = scene.handedOn.getLast? := by simp [latest?, staged]
    cases kind : fault.isSystem <;>
      simpa [Watcher.conclude, Scene.conclude, kind] using tracks.rest _ idle
  | ok outcome =>
    exact
      { current := tracks.current
        remembered := fun known same =>
          tracks.taken known (by rw [staged]; exact same)
        taken := fun known other => by cases other
        undisturbed := fun known other staged => by cases staged
        settled := by
          intro known same stamped
          have same : stamp = some known := same
          have stamped : scene.file.stamp? = some known := stamped
          have still : atTest = scene.file :=
            tracks.undisturbed known atTest (same ▸ staged) stamped
          have present : scene.file.exists? = true :=
            LeaseFile.exists?_of_stamp? stamped
          have leases : scene.file.leases = .ok outcome := by
            subst still
            cases broken with
            | none => simpa [Scene.reading, Feed.readLeases, present] using read
            | some broken => simp [Scene.reading, present] at read
          exact ⟨outcome, leases, rfl⟩ }

theorem proceed (tracks : Tracks seen scene) (broken : Option SystemFault) :
    Tracks seen (scene.proceed broken) := by
  unfold Scene.proceed
  split
  next => exact tracks
  next stamp staged =>
    have idle : scene.latest? = scene.handedOn.getLast? := by simp [latest?, staged]
    refine tracks.restage rfl rfl idle.symm ?_ (fun _ _ same => by cases same; rfl)
    intro known same
    exact tracks.taken known (by rw [staged]; exact same)
  next stamp atTest staged => exact tracks.conclude staged broken
  next leases staged =>
    refine tracks.restage rfl rfl ?_ (fun _ known => by cases known)
      (fun _ _ same => by cases same)
    simp [latest?, staged, Scene.rest]

theorem next (tracks : Tracks seen scene) (event : Event)
    (fresh : ∀ stamp, event.stamp? = some stamp → stamp ∉ seen) :
    Tracks (seen ++ event.stamp?.toList) (scene.next event) := by
  cases event with
  | change file => exact tracks.change fresh
  | look force =>
    have same : seen ++ (Event.look force).stamp?.toList = seen := List.append_nil seen
    exact same.symm ▸ tracks.look force
  | proceed broken =>
    have same : seen ++ (Event.proceed broken).stamp?.toList = seen :=
      List.append_nil seen
    exact same.symm ▸ tracks.proceed broken

theorem run (tracks : Tracks seen scene) (events : List Event)
    (fresh : (seen ++ events.filterMap Event.stamp?).Nodup) :
    Tracks (seen ++ events.filterMap Event.stamp?) (scene.run events) := by
  induction events generalizing seen scene with
  | nil => simpa using tracks
  | cons event events ih =>
    have split : (event :: events).filterMap Event.stamp? =
        event.stamp?.toList ++ events.filterMap Event.stamp? := by
      cases stamped : event.stamp? <;> simp [stamped]
    rw [split, ← List.append_assoc] at fresh ⊢
    have stepped : Tracks (seen ++ event.stamp?.toList) (scene.next event) := by
      refine tracks.next event fun stamp stamped before => ?_
      have apart := (List.nodup_append.mp (List.nodup_append.mp fresh).1).2.2
      exact apart stamp before stamp (by simp [stamped]) rfl
    exact ih stepped fresh

end Tracks

/-! ## A file that has stopped changing -/

/-- The watcher has caught up with a file: it remembers its stamp, and the last batch
is what stands in it. -/
structure Settled (file : LeaseFile) (outcome : Feed.Outcome) (scene : Scene) : Prop where
  unmoved : scene.file = file
  remembered : scene.watcher.remembered = file.stamp?
  stage : scene.stage.Fits file outcome
  handedOn : scene.handedOn.getLast? = some outcome.leases

namespace Settled

variable {file : LeaseFile} {outcome : Feed.Outcome} {scene : Scene}

theorem look (settled : Settled file outcome scene) (force : Bool) :
    Settled file outcome (scene.look force) := by
  unfold Scene.look
  split
  · split
    · exact ⟨settled.unmoved, settled.remembered, trivial, settled.handedOn⟩
    · exact ⟨settled.unmoved, settled.remembered, congrArg LeaseFile.stamp? settled.unmoved,
        settled.handedOn⟩
  · exact settled

theorem proceed (settled : Settled file outcome scene)
    (read : file.leases = .ok outcome) {stamp : FileStamp}
    (stamped : file.stamp? = some stamp) (broken : Option SystemFault) :
    Settled file outcome (scene.proceed broken) := by
  have present : file.exists? = true := LeaseFile.exists?_of_stamp? stamped
  have stage := settled.stage
  unfold Scene.proceed
  split
  next => exact settled
  next taken staged =>
    rw [staged] at stage
    exact ⟨settled.unmoved, settled.remembered, ⟨stage, settled.unmoved⟩, settled.handedOn⟩
  next taken atTest staged =>
    rw [staged] at stage
    obtain ⟨rfl, rfl⟩ : taken = file.stamp? ∧ atTest = file := stage
    cases broken with
    | none =>
      have reading : scene.reading atTest none = .ok outcome := by
        simp [Scene.reading, Feed.readLeases, settled.unmoved, present, read]
      rw [reading]
      exact ⟨settled.unmoved, rfl, rfl, settled.handedOn⟩
    | some broken =>
      have reading : scene.reading atTest (some broken) = .error broken.val := by
        simp [Scene.reading, present]
      rw [reading]
      simp only [Watcher.conclude, broken.property, if_true]
      exact ⟨settled.unmoved, settled.remembered, trivial, settled.handedOn⟩
  next leases staged =>
    rw [staged] at stage
    refine ⟨settled.unmoved, settled.remembered, trivial, ?_⟩
    have same : leases = outcome.leases := stage
    simp [rest, same]

theorem run (settled : Settled file outcome scene) (read : file.leases = .ok outcome)
    {stamp : FileStamp} (stamped : file.stamp? = some stamp) {events : List Event}
    (unchanged : ∀ event ∈ events, event.isChange = false) :
    Settled file outcome (scene.run events) := by
  induction events generalizing scene with
  | nil => exact settled
  | cons event events ih =>
    have others : ∀ event ∈ events, event.isChange = false := fun other mem =>
      unchanged other (List.mem_cons_of_mem event mem)
    refine ih ?_ others
    cases event with
    | change file => exact absurd (unchanged _ List.mem_cons_self) (by simp [Event.isChange])
    | look force => exact settled.look force
    | proceed broken => exact settled.proceed read stamped broken

/-- A look at a file that the watcher has caught up with is over at once. -/
theorem look_unforced (settled : Settled file outcome scene)
    (resting : scene.stage = .resting) : scene.look false = scene.rest (.ok false) := by
  have same : scene.file.stamp? = scene.watcher.remembered := by
    rw [settled.unmoved, settled.remembered]
  simp [Scene.look, resting, Watcher.declines_iff.mpr ⟨rfl, same⟩]

/-- One whole look catches up, whether it reads the file or finds that it need not. -/
theorem of_wholeLook {seen : List FileStamp} (tracks : Tracks seen scene)
    (resting : scene.stage = .resting) {stamp : FileStamp}
    (stamped : scene.file.stamp? = some stamp) (read : scene.file.leases = .ok outcome)
    (force : Bool) : Settled scene.file outcome (scene.run (wholeLook force)) := by
  rw [run_wholeLook resting, Watcher.look, Watcher.lookAt_eq,
    Feed.readLeases_of_stamp? _ stamped, read]
  split
  next declined =>
    have known : scene.file.stamp? = scene.watcher.remembered :=
      (Watcher.declines_iff.mp declined).2
    obtain ⟨last, lastRead, latest⟩ :=
      tracks.settled stamp (known ▸ stamped) stamped
    obtain rfl : outcome = last := by
      rw [read] at lastRead
      exact Except.ok.inj lastRead
    refine ⟨rfl, known.symm, trivial, ?_⟩
    simpa [after, latest?, resting] using latest
  next => exact ⟨rfl, rfl, trivial, by simp [after, Watcher.conclude, Watcher.accept]⟩

end Settled

/-! ## A look that fails -/

/-- While the look that started at `opening` is under way, it has left no trace but the
stamp it took. -/
def Underway (opening : Scene) (force : Bool) (scene : Scene) : Prop :=
  match scene.stage with
  | .stamped stamp | .tested stamp _ =>
    scene.watcher = opening.watcher ∧ scene.handedOn = opening.handedOn ∧
      scene.answers = opening.answers ∧ stamp = opening.file.stamp? ∧
      opening.watcher.declines force stamp = false
  | _ => True

namespace Underway

variable {opening scene : Scene} {force : Bool}

theorem look (resting : opening.stage = .resting) :
    Underway opening force (opening.look force) := by
  unfold Scene.look
  rw [resting]
  cases declined : opening.watcher.declines force opening.file.stamp? with
  | true => exact trivial
  | false => exact ⟨rfl, rfl, rfl, rfl, declined⟩

theorem conclude (scene : Scene) (look : Watcher.Look) :
    Underway opening force (scene.conclude look) := by
  unfold Scene.conclude
  split <;> exact trivial

theorem proceed (underway : Underway opening force scene)
    (broken : Option SystemFault) : Underway opening force (scene.proceed broken) := by
  unfold Scene.proceed
  split
  next => exact underway
  next stamp staged =>
    unfold Underway at underway
    rw [staged] at underway
    exact underway
  next => exact conclude ..
  next => exact trivial

theorem run (underway : Underway opening force scene) {events : List Event}
    (sameLook : ∀ event ∈ events, event.isLook = false) :
    Underway opening force (scene.run events) := by
  induction events generalizing scene with
  | nil => exact underway
  | cons event events ih =>
    have others : ∀ event ∈ events, event.isLook = false := fun other mem =>
      sameLook other (List.mem_cons_of_mem event mem)
    refine ih ?_ others
    cases event with
    | change file => exact underway
    | look force => exact absurd (sameLook _ List.mem_cons_self) (by simp [Event.isLook])
    | proceed broken => exact underway.proceed broken

end Underway

theorem isSystem_of_reading {scene : Scene} {atTest : LeaseFile}
    {broken : Option SystemFault} {fault : Fault}
    (failed : scene.reading atTest broken = .error fault) : fault.isSystem = true := by
  have readLeases
      (failed : Feed.readLeases scene.watcher.path atTest scene.file = .error fault) :
      fault.isSystem = true := by
    unfold Feed.readLeases at failed
    split at failed
    · exact LeaseFile.isSystem_of_leases failed
    · cases failed
  cases broken with
  | none => exact readLeases failed
  | some broken =>
    by_cases present : atTest.exists? = true
    · have same : broken.val = fault := by simpa [reading, present] using failed
      exact same ▸ broken.property
    · exact readLeases (by simpa [reading, present] using failed)

/-- A reading that fails ends its look with everything as the look found it. -/
theorem proceed_of_failed {opening : Scene} (resting : opening.stage = .resting)
    {force : Bool} {between : List Event}
    (sameLook : ∀ event ∈ between, event.isLook = false) {stamp : Option FileStamp}
    {atTest : LeaseFile}
    (staged : (opening.run (.look force :: between)).stage = .tested stamp atTest)
    {broken : Option SystemFault} {fault : Fault}
    (failed : (opening.run (.look force :: between)).reading atTest broken =
      .error fault) :
    (opening.run (.look force :: between)).proceed broken =
        { opening with file := (opening.run (.look force :: between)).file }.rest
          (.ok false) ∧
      opening.watcher.declines force opening.file.stamp? = false := by
  have underway : Underway opening force (opening.run (.look force :: between)) :=
    (Underway.look resting).run sameLook
  have system : fault.isSystem = true := isSystem_of_reading failed
  generalize opening.run (.look force :: between) = scene at staged failed underway ⊢
  unfold Underway at underway
  rw [staged] at underway
  obtain ⟨watcher, handedOn, answers, rfl, goesOn⟩ := underway
  refine ⟨?_, goesOn⟩
  unfold proceed
  rw [staged]
  dsimp only
  rw [failed]
  simp [Watcher.conclude, system, conclude, rest, Watcher.Look.answer, watcher,
    handedOn, answers]

end Scene

/-! ## No change is missed -/

/-- The stamps that the file bears one after the other. -/
def stamps (first : LeaseFile) (events : List Event) : List FileStamp :=
  first.stamp?.toList ++ events.filterMap Event.stamp?

open Scene in
/-- After any run whose changes give the file ever new stamps, one whole look brings the
last batch up to what stands in the file.  It stays so until the file changes again, and
no unforced look hands anything on meanwhile.  A look whose reading fails leaves the
watcher as it was, so the next look reads again if the file still bears a stamp that the
watcher does not remember, as it did for the look that failed. -/
theorem no_change_missed {path : String} {first : LeaseFile} {events : List Event}
    (fresh : (stamps first events).Nodup)
    (resting : ((start path first).run events).stage = .resting) :
    let scene := (start path first).run events
    (∀ changed bytes, scene.file = .file changed bytes →
      ∃ outcome, Feed.readLeases path scene.file scene.file = .ok outcome ∧
        ∀ force,
          scene.run (wholeLook force) =
              scene.after scene.file (scene.watcher.look force scene.file) ∧
            ∀ later, (∀ event ∈ later, event.isChange = false) →
              let last := scene.run (wholeLook force ++ later)
              last.handedOn.getLast? = some outcome.leases ∧
                (last.stage = .resting →
                  last.run [.look false] = last.rest (.ok false))) ∧
      ∀ force between, (∀ event ∈ between, event.isLook = false) →
        let tested := scene.run (.look force :: between)
        ∀ stamp atTest broken fault, tested.stage = .tested stamp atTest →
          tested.reading atTest broken = .error fault →
          let failed := tested.run [.proceed broken]
          failed = { scene with file := tested.file }.rest (.ok false) ∧
            (force = false → scene.file.stamp? ≠ scene.watcher.remembered) ∧
            (failed.file.stamp? ≠ scene.watcher.remembered →
              failed.run [.look false] =
                { failed with stage := .stamped failed.file.stamp? }) := by
  intro scene
  have tracks : Tracks (stamps first events) scene :=
    (Tracks.start path first).run events fresh
  refine ⟨?_, ?_⟩
  · intro changed bytes standing
    have stamped : scene.file.stamp? = some ⟨changed, bytes.length⟩ := by
      rw [standing]
      rfl
    obtain ⟨outcome, read⟩ : ∃ outcome, scene.file.leases = .ok outcome := by
      rw [standing]
      exact LeaseFile.leases_file changed bytes
    refine ⟨outcome, (Feed.readLeases_of_stamp? path stamped).trans read, ?_⟩
    intro force
    refine ⟨run_wholeLook resting force, ?_⟩
    intro later unchanged last
    have settled : Settled scene.file outcome last := by
      rw [show last = _ from run_append scene (wholeLook force) later]
      exact (Settled.of_wholeLook tracks resting stamped read force).run read stamped
        unchanged
    exact ⟨settled.handedOn, settled.look_unforced⟩
  · intro force between sameLook tested stamp atTest broken fault staged read failed
    obtain ⟨ends, goesOn⟩ := proceed_of_failed resting sameLook staged read
    refine ⟨ends, ?_, ?_⟩
    · rintro rfl known
      rw [Watcher.declines_iff.mpr ⟨rfl, known⟩] at goesOn
      cases goesOn
    · intro unknown
      have watcher : failed.watcher = scene.watcher := by
        rw [show failed = _ from ends]
        rfl
      have idle : failed.stage = .resting := by
        rw [show failed = _ from ends]
        rfl
      have again : failed.watcher.declines false failed.file.stamp? = false := by
        rw [watcher, Bool.eq_false_iff]
        exact fun declined => unknown (Watcher.declines_iff.mp declined).2
      simp [next, look, idle, again]

/-- A lease file with one lease. -/
private def oneLease : List UInt8 :=
  "0 aa:bb:cc:dd:ee:ff 10.0.0.5 nas".toUTF8.toList

/-- The file appears behind the first test, is deleted behind the second stamp, and is
written again behind the third test, where the reading breaks off. -/
private def troubled : List Event :=
  [.look true, .proceed none, .change (.file 1 [10]), .proceed none, .proceed none,
    .look false, .change .missing, .proceed none, .proceed none, .proceed none,
    .change (.file 2 [10, 10]), .look false, .proceed none,
    .change (.file 3 oneLease), .proceed (some ⟨.notDirectory, rfl⟩)]

open Scene in
theorem last_write_handed_on :
    (stamps .missing troubled).Nodup ∧
      ((start "leases" .missing).run troubled).stage = .resting ∧
      ∃ outcome, Feed.leasesOfBytes oneLease = .ok outcome ∧
        outcome.leases.length = 1 ∧
        ((start "leases" .missing).run (troubled ++ wholeLook false)).handedOn.getLast? =
          some outcome.leases := by
  have fresh : (stamps .missing troubled).Nodup := by decide +kernel
  have resting : ((start "leases" .missing).run troubled).stage = .resting := by
    decide +kernel
  refine ⟨fresh, resting, ?_⟩
  obtain ⟨outcome, read, caughtUp⟩ :=
    (no_change_missed fresh resting).1 3 oneLease rfl
  have read : Feed.leasesOfBytes oneLease = .ok outcome := read
  have length : (Feed.leasesOfBytes oneLease).toOption.map
      (fun outcome => outcome.leases.length) = some 1 := by decide +kernel
  refine ⟨outcome, read, by simpa [read, Except.toOption] using length, ?_⟩
  have last := ((caughtUp false).2 [] (by simp)).1
  rwa [List.append_nil, ← run_append] at last

end Stepwise

end LeaseRoster
