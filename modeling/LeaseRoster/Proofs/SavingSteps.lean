import LeaseRoster.Proofs.PreparedFiles
import Mathlib.Logic.Relation

/-!
# Savings step by step

Saving a snapshot to a disk makes the directories above its target one by one, starts the file
beside the target, makes the snapshot ready to be written, writes it part by part, and at last puts
the file in the place of the target.  It may fail between any two of these steps, by any fault, and
a part that is being written may then be torn.  Only the last step is taken to be a single one.

What a reader finds at the target is found by its path, over all links.  A disk that admits a saving
keeps the steps in front of the last one from being seen there.
-/

namespace LeaseRoster

namespace Export

theorem snapshotText_eq_ok_iff {snapshot : Snapshot} {poolSize : Option Nat} {text : List Char} :
    snapshotText snapshot poolSize = .ok text ↔
      ∃ value, snapshot.toJson poolSize = .ok value ∧ value.fileText = text ∧
        Text.isEncodable text = true := by
  unfold snapshotText
  cases snapshot.toJson poolSize with
  | error fault => simp [bind, Except.bind]
  | ok value =>
    by_cases encodable : Text.isEncodable value.fileText = true
    · simp only [bind, Except.bind, if_pos encodable, pure, Except.pure, Except.ok.injEq,
        exists_eq_left']
      constructor
      · rintro rfl
        exact ⟨rfl, encodable⟩
      · exact And.left
    · simp only [bind, Except.bind, if_neg encodable, throw, throwThe, MonadExceptOf.throw,
        reduceCtorEq, Except.ok.injEq, exists_eq_left', false_iff, not_and]
      rintro rfl
      exact encodable

/-! ## Stages -/

/-- How far a saving has come: the directories that are left to be made or the text that is left
to be written, or how it has ended. -/
inductive SavingStage
  | making (directories : List FilePath)
  | starting
  | building
  | writing (left : List Char)
  | replacing
  | returned
  | raised (fault : Fault)

/-- Whether a saving still goes on. -/
def SavingStage.isOpen : SavingStage → Bool
  | .returned => false
  | .raised _ => false
  | _ => true

/-- A saving that has come to some stage, and the disk as it is then. -/
structure Saving where
  stage : SavingStage
  disk : Disk

namespace Saving

/-- A saving before its first step. -/
def initial (path : FilePath) (disk : Disk) : Saving :=
  ⟨.making (SavePath.above path), disk⟩

/-- A saving that has ended. -/
def ofSaved (saved : Saved Disk) : Saving :=
  ⟨saved.fault.elim .returned .raised, saved.tree⟩

/-- One step of saving a snapshot.  A fault may be raised at every stage, whatever it comes from;
where it comes while the text is written, the file that the text goes to may hold anything. -/
inductive Leads (path : FilePath) (poolSize : Option Nat) (snapshot : Snapshot) :
    Saving → Saving → Prop
  | made {disk next : Disk} {directory : FilePath} {rest : List FilePath}
      (makes : perform path disk (.makeDirectory directory) = .ok next) :
      Leads path poolSize snapshot ⟨.making (directory :: rest), disk⟩ ⟨.making rest, next⟩
  | allMade {disk : Disk} : Leads path poolSize snapshot ⟨.making [], disk⟩ ⟨.starting, disk⟩
  | started {disk next : Disk} (starts : perform path disk .start = .ok next) :
      Leads path poolSize snapshot ⟨.starting, disk⟩ ⟨.building, next⟩
  | built {disk : Disk} {value : JsonValue} (builds : snapshot.toJson poolSize = .ok value) :
      Leads path poolSize snapshot ⟨.building, disk⟩ ⟨.writing value.fileText, disk⟩
  | wrote {disk next : Disk} {part rest : List Char} (encodable : Text.isEncodable part = true)
      (adds : perform path disk (.write (.ok part)) = .ok next) :
      Leads path poolSize snapshot ⟨.writing (part ++ rest), disk⟩ ⟨.writing rest, next⟩
  | closed {disk : Disk} : Leads path poolSize snapshot ⟨.writing [], disk⟩ ⟨.replacing, disk⟩
  | replaced {disk next : Disk} (replaces : perform path disk .replace = .ok next) :
      Leads path poolSize snapshot ⟨.replacing, disk⟩ ⟨.returned, next⟩
  | failed {stage : SavingStage} {disk : Disk} (fault : Fault) (goesOn : stage.isOpen = true) :
      Leads path poolSize snapshot ⟨stage, disk⟩ ⟨.raised fault, disk⟩
  | tore {disk next : Disk} {left : List Char} {temporary : FilePath} (remains : List UInt8)
      (fault : Fault) (named : path.beside = .ok temporary)
      (tears : disk.rewrite temporary (fun _ => remains) = .ok next) :
      Leads path poolSize snapshot ⟨.writing left, disk⟩ ⟨.raised fault, next⟩

/-- Some steps of saving a snapshot. -/
def Reaches (path : FilePath) (poolSize : Option Nat) (snapshot : Snapshot) :
    Saving → Saving → Prop :=
  Relation.ReflTransGen (Leads path poolSize snapshot)

/-! ## What stands at a stage -/

open Disk (Making Site Prepared Replaced)

/-- What a saving has done to a disk by a stage. -/
inductive Stands (path : FilePath) (poolSize : Option Nat) (snapshot : Snapshot) (disk : Disk) :
    Saving → Prop
  | making {reached : Disk} {done left : List (List Char)}
      (split : path.parent.names = done ++ left) (making : Making disk path done reached) :
      Stands path poolSize snapshot disk ⟨.making (FilePath.along ⟨path.root, done⟩ left), reached⟩
  | starting {reached : Disk} (making : Making disk path path.parent.names reached) :
      Stands path poolSize snapshot disk ⟨.starting, reached⟩
  | building {reached next : Disk} {directory : Place} {name : List Char} {links number : Nat}
      (making : Making disk path path.parent.names reached)
      (site : Site reached path directory name links)
      (prepared : Prepared reached next (Disk.beside directory name) number []) :
      Stands path poolSize snapshot disk ⟨.building, next⟩
  | writing {reached next : Disk} {directory : Place} {name : List Char} {links number : Nat}
      {value : JsonValue} {written left : List Char}
      (making : Making disk path path.parent.names reached)
      (site : Site reached path directory name links)
      (builds : snapshot.toJson poolSize = .ok value) (whole : written ++ left = value.fileText)
      (prepared : Prepared reached next (Disk.beside directory name) number
        (Text.encode written)) :
      Stands path poolSize snapshot disk ⟨.writing left, next⟩
  | replacing {reached next : Disk} {directory : Place} {name : List Char} {links number : Nat}
      {value : JsonValue} (making : Making disk path path.parent.names reached)
      (site : Site reached path directory name links)
      (builds : snapshot.toJson poolSize = .ok value)
      (prepared : Prepared reached next (Disk.beside directory name) number
        (Text.encode value.fileText)) :
      Stands path poolSize snapshot disk ⟨.replacing, next⟩
  | returned {reached next : Disk} {directory : Place} {name : List Char} {links number : Nat}
      {value : JsonValue} (making : Making disk path path.parent.names reached)
      (site : Site reached path directory name links)
      (builds : snapshot.toJson poolSize = .ok value)
      (replaced : Replaced reached next directory name number (Text.encode value.fileText)) :
      Stands path poolSize snapshot disk ⟨.returned, next⟩
  | raisedEarly {reached : Disk} {done : List (List Char)} {fault : Fault}
      (part : done <+: path.parent.names) (making : Making disk path done reached) :
      Stands path poolSize snapshot disk ⟨.raised fault, reached⟩
  | raisedLate {reached next : Disk} {directory : Place} {name : List Char} {links number : Nat}
      {bytes : List UInt8} {fault : Fault}
      (making : Making disk path path.parent.names reached)
      (site : Site reached path directory name links)
      (prepared : Prepared reached next (Disk.beside directory name) number bytes) :
      Stands path poolSize snapshot disk ⟨.raised fault, next⟩

section Step

variable {path : FilePath} {poolSize : Option Nat} {snapshot : Snapshot} {disk next : Disk}
  {saving later : Saving}

theorem stands_initial (path : FilePath) (poolSize : Option Nat) (snapshot : Snapshot)
    (disk : Disk) : Stands path poolSize snapshot disk (initial path disk) :=
  .making (List.nil_append _).symm .still

/-- A file that can be started beside a target stands in a directory. -/
theorem leadsInto_of_start (starts : perform path disk .start = .ok next) :
    ∃ directory name left, path.names.getLast? = some name ∧
      disk.LeadsInto path path.parent.names directory left := by
  obtain ⟨temporary, named, started⟩ := exists_of_bind starts
  obtain ⟨name, final, rfl⟩ := (path.beside_eq_ok_iff temporary).mp named
  obtain ⟨place, reached, -⟩ := exists_of_bind started
  obtain ⟨left, walked⟩ := (disk.reach_eq_ok_iff _ place).mp reached
  obtain ⟨⟨directory, further⟩, way, onwards⟩ := Disk.walk_append_inv walked
  exact ⟨directory, name, further, final, way, Disk.directory_of_walk_cons onwards⟩

theorem Stands.of_leads (admits : disk.Admits path)
    (stands : Stands path poolSize snapshot disk saving)
    (leads : Leads path poolSize snapshot saving later) :
    Stands path poolSize snapshot disk later := by
  cases leads with
  | @made _ _ directory rest makes =>
    generalize list : directory :: rest = directories at stands
    cases stands with
    | @making reached done left split making =>
      cases left with
      | nil => cases list
      | cons name others =>
        obtain ⟨rfl, rfl⟩ := List.cons.inj list
        refine .making (by rw [split]; simp) (making.makeDirectory admits.direct split makes)
  | allMade =>
    generalize list : ([] : List FilePath) = directories at stands
    cases stands with
    | @making reached done left split making =>
      cases left with
      | nil =>
        rw [List.append_nil] at split
        exact .starting (split ▸ making)
      | cons name others => cases list
  | started starts =>
    cases stands with
    | starting making =>
      obtain ⟨directory, name, left, final, into⟩ := leadsInto_of_start starts
      have site := admits.site_of_making making final into
      obtain ⟨temporary, named, started⟩ := exists_of_bind starts
      obtain ⟨number, prepared⟩ := site.prepared_of_startFile named started
      exact .building making site prepared
  | built builds =>
    cases stands with
    | building making site prepared =>
      -- Nothing is written yet, and the empty text has no bytes.
      exact .writing making site builds (List.nil_append _) prepared
  | @wrote _ _ part rest _ adds =>
    generalize text : part ++ rest = left at stands
    cases stands with
    | writing making site builds whole prepared =>
      obtain ⟨_, same, adds⟩ := exists_of_bind adds
      obtain rfl := Except.ok.inj same
      obtain ⟨temporary, named, rewrites⟩ := exists_of_bind adds
      change Disk.rewrite _ temporary (· ++ Text.encode part) = _ at rewrites
      have further := site.prepared_of_rewrite prepared named rewrites
      rw [← Text.encode_append] at further
      subst text
      exact .writing making site builds ((List.append_assoc _ _ _).trans whole) further
  | closed =>
    generalize text : ([] : List Char) = rest at stands
    cases stands with
    | writing making site builds whole prepared =>
      subst text
      rw [List.append_nil] at whole
      subst whole
      exact .replacing making site builds prepared
  | replaced replaces =>
    cases stands with
    | replacing making site builds prepared =>
      obtain ⟨temporary, named, done⟩ := exists_of_bind replaces
      exact .returned making site builds (site.replaced_of_replace prepared named done)
  | failed fault goesOn =>
    cases stands with
    | making split making => exact .raisedEarly ⟨_, split.symm⟩ making
    | starting making => exact .raisedEarly (List.prefix_refl _) making
    | building making site prepared => exact .raisedLate making site prepared
    | writing making site _ _ prepared => exact .raisedLate making site prepared
    | replacing making site _ prepared => exact .raisedLate making site prepared
    | returned => cases goesOn
    | raisedEarly => cases goesOn
    | raisedLate => cases goesOn
  | tore remains fault named tears =>
    cases stands with
    | writing making site _ _ prepared =>
      exact .raisedLate making site (site.prepared_of_rewrite prepared named tears)

theorem Stands.of_reaches (admits : disk.Admits path)
    (reached : Reaches path poolSize snapshot (initial path disk) saving) :
    Stands path poolSize snapshot disk saving := by
  induction reached with
  | refl => exact stands_initial path poolSize snapshot disk
  | tail _ leads ih => exact ih.of_leads admits leads

/-! ## What has changed -/

/-- Until a saving returns a reader finds at the target what was there. -/
theorem Stands.seen? (stands : Stands path poolSize snapshot disk saving)
    (goesOn : saving.stage ≠ .returned) : saving.disk.seen? path = disk.seen? path := by
  have late {reached next : Disk} {directory : Place} {name : List Char} {links number : Nat}
      {bytes : List UInt8} (making : Making disk path path.parent.names reached)
      (site : Site reached path directory name links)
      (prepared : Prepared reached next (Disk.beside directory name) number bytes) :
      next.seen? path = disk.seen? path :=
    (prepared.seen? site.apart).trans (making.seen? (List.prefix_refl _))
  cases stands with
  | making split making => exact making.seen? ⟨_, split.symm⟩
  | starting making => exact making.seen? (List.prefix_refl _)
  | building making site prepared => exact late making site prepared
  | writing making site _ _ prepared => exact late making site prepared
  | replacing making site _ prepared => exact late making site prepared
  | returned => exact absurd rfl goesOn
  | raisedEarly part making => exact making.seen? part
  | raisedLate making site prepared => exact late making site prepared

/-- What a saving has done when it returns: the target has the whole snapshot, and the file beside
it is gone. -/
theorem Stands.complete (stands : Stands path poolSize snapshot disk saving)
    (ends : saving.stage = .returned) :
    ∃ value, snapshot.toJson poolSize = .ok value ∧
      saving.disk.seen? path = some (.file (Text.encode value.fileText)) ∧
      ∃ place, saving.disk.besidePlace path = .ok place ∧ saving.disk.node? place = none := by
  cases stands with
  | returned making site builds replaced =>
    exact ⟨_, builds, site.seen?_of_replaced replaced, _,
      (site.places_of_replaced replaced).1, replaced.gone⟩
  | _ => cases ends

/-- What a saving may have changed at a place. -/
inductive Changes (path : FilePath) (disk : Disk) (saving : Saving) (place : Place) : Prop
  | same (held : saving.disk.held? place = disk.held? place)
  | new (new : Disk.IsNew disk saving.disk path place)
  | beside (here : saving.disk.besidePlace path = .ok place)
  | target (ends : saving.stage = .returned) (here : saving.disk.placeOf path = .ok place)

theorem changes_of_making {reached : Disk} {done : List (List Char)} {stage : SavingStage}
    (making : Making disk path done reached) (part : done <+: path.parent.names) (place : Place) :
    Changes path disk ⟨stage, reached⟩ place := by
  rcases making.held? part place with same | new
  · exact .same same
  · exact .new new

theorem changes_of_prepared {reached next : Disk} {directory : Place} {name : List Char}
    {links number : Nat} {bytes : List UInt8} {stage : SavingStage}
    (making : Making disk path path.parent.names reached)
    (site : Site reached path directory name links)
    (prepared : Prepared reached next (Disk.beside directory name) number bytes) (place : Place) :
    Changes path disk ⟨stage, next⟩ place := by
  by_cases atBeside : place = Disk.beside directory name
  · exact .beside ((next.besidePlace_eq_ok_iff path place).mpr
      ⟨directory, name, links, site.final, prepared.leads site.leads, atBeside⟩)
  · rcases making.held? (List.prefix_refl _) place with same | new
    · exact .same ((prepared.held? atBeside).trans same)
    · exact .new (new.mono prepared.working prepared.shows)

theorem changes_of_replaced {reached next : Disk} {directory : Place} {name : List Char}
    {links number : Nat} {bytes : List UInt8}
    (making : Making disk path path.parent.names reached)
    (site : Site reached path directory name links)
    (replaced : Replaced reached next directory name number bytes) (place : Place) :
    Changes path disk ⟨.returned, next⟩ place := by
  obtain ⟨besideHere, targetHere⟩ := site.places_of_replaced replaced
  by_cases atTarget : place = directory ++ [name]
  · exact .target rfl (atTarget ▸ targetHere)
  by_cases atBeside : place = Disk.beside directory name
  · exact .beside (atBeside ▸ besideHere)
  have kept := (replaced.others place atTarget atBeside).2
  rcases making.held? (List.prefix_refl _) place with same | new
  · exact .same (kept.trans same)
  · rcases making.still_or_vacant site.leads with rfl | ⟨-, vacant⟩
    · exact .same kept
    · exact .new (new.mono replaced.working (site.shows_of_replaced replaced (by simp [vacant])))

theorem Stands.changes (stands : Stands path poolSize snapshot disk saving) (place : Place) :
    Changes path disk saving place := by
  cases stands with
  | making split making => exact changes_of_making making ⟨_, split.symm⟩ place
  | starting making => exact changes_of_making making (List.prefix_refl _) place
  | building making site prepared => exact changes_of_prepared making site prepared place
  | writing making site _ _ prepared => exact changes_of_prepared making site prepared place
  | replacing making site _ prepared => exact changes_of_prepared making site prepared place
  | returned making site _ replaced => exact changes_of_replaced making site replaced place
  | raisedEarly part making => exact changes_of_making making part place
  | raisedLate making site prepared => exact changes_of_prepared making site prepared place

/-! ## Undisturbed savings -/

/-- The steps of a saving up to the snapshot, from some of the directories on. -/
def opened (path : FilePath) (disk : Disk) (directories : List FilePath) : Saved Disk :=
  performAll path disk (directories.map .makeDirectory ++ [.start])

theorem reaches_opened (directories : List FilePath)
    (fine : (opened path disk directories).fault = none) :
    Reaches path poolSize snapshot ⟨.making directories, disk⟩
      ⟨.building, (opened path disk directories).tree⟩ := by
  unfold opened at fine ⊢
  induction directories generalizing disk with
  | nil =>
    rw [List.map_nil, List.nil_append, performAll] at fine ⊢
    cases starts : perform path disk .start with
    | error fault =>
      rw [starts] at fine
      cases fine
    | ok next => exact .head .allMade (.single (.started starts))
  | cons directory rest ih =>
    rw [List.map_cons, List.cons_append, performAll] at fine ⊢
    cases makes : perform path disk (.makeDirectory directory) with
    | error fault =>
      rw [makes] at fine
      cases fine
    | ok next =>
      rw [makes] at fine
      exact .head (.made makes) (ih fine)

theorem stage_ofSaved {saved : Saved Disk} (fine : saved.fault = none) :
    (ofSaved saved).stage = .returned := by
  rw [ofSaved, fine]
  rfl

theorem reaches_ofSaved_of_failed {stage : SavingStage} (fault : Fault)
    (goesOn : stage.isOpen = true) :
    Reaches path poolSize snapshot ⟨stage, disk⟩ (ofSaved ⟨disk, some fault⟩) :=
  .single (.failed fault goesOn)

theorem reaches_of_replacing :
    Reaches path poolSize snapshot ⟨.replacing, disk⟩
      (ofSaved (performAll path disk [.replace])) := by
  rw [performAll]
  cases replaces : perform path disk .replace with
  | error fault => exact reaches_ofSaved_of_failed fault rfl
  | ok next => exact .single (.replaced replaces)

theorem reaches_of_building :
    Reaches path poolSize snapshot ⟨.building, disk⟩
      (ofSaved (performAll path disk [.write (snapshotText snapshot poolSize), .replace])) := by
  rw [performAll]
  cases text : snapshotText snapshot poolSize with
  | error fault => exact reaches_ofSaved_of_failed fault rfl
  | ok characters =>
    obtain ⟨value, builds, rfl, encodable⟩ := snapshotText_eq_ok_iff.mp text
    cases adds : perform path disk (.write (.ok value.fileText)) with
    | error fault => exact reaches_ofSaved_of_failed fault rfl
    | ok next =>
      have written : Leads path poolSize snapshot ⟨.writing (value.fileText ++ []), disk⟩
          ⟨.writing [], next⟩ := .wrote encodable adds
      rw [List.append_nil] at written
      exact .head (.built builds) (.head written (.head .closed reaches_of_replacing))

theorem reaches_of_starting :
    Reaches path poolSize snapshot ⟨.starting, disk⟩
      (ofSaved (performAll path disk
        [.start, .write (snapshotText snapshot poolSize), .replace])) := by
  rw [performAll]
  cases starts : perform path disk .start with
  | error fault => exact reaches_ofSaved_of_failed fault rfl
  | ok next => exact .head (.started starts) reaches_of_building

theorem reaches_of_making (directories : List FilePath) :
    Reaches path poolSize snapshot ⟨.making directories, disk⟩
      (ofSaved (performAll path disk (directories.map .makeDirectory ++
        [.start, .write (snapshotText snapshot poolSize), .replace]))) := by
  induction directories generalizing disk with
  | nil => exact .head .allMade reaches_of_starting
  | cons directory rest ih =>
    rw [List.map_cons, List.cons_append, performAll]
    cases makes : perform path disk (.makeDirectory directory) with
    | error fault => exact reaches_ofSaved_of_failed fault rfl
    | ok next => exact .head (.made makes) ih

/-- What comes of a saving is one of the ends that its steps lead to. -/
theorem reaches_save (path : FilePath) (poolSize : Option Nat) (snapshot : Snapshot)
    (disk : Disk) :
    Reaches path poolSize snapshot (initial path disk)
      (ofSaved (save path poolSize snapshot disk)) :=
  reaches_of_making (SavePath.above path)

end Step

end Saving

/-- Saving a snapshot to a disk that admits it comes to one of the ends of its steps.  Wherever a
fault strikes, a reader finds at the target what was there before, at every stage until the file
beside it is put in its place.  If the saving returns, the target has the whole snapshot and there is
no file beside it.  At no stage has anything changed at other places; only directories above the
target may be new. -/
theorem saving_is_all_or_nothing (path : FilePath) (poolSize : Option Nat) (snapshot : Snapshot)
    (disk : Disk) (admits : disk.Admits path) :
    Saving.Reaches path poolSize snapshot (.initial path disk)
        (.ofSaved (save path poolSize snapshot disk)) ∧
      ∀ saving, Saving.Reaches path poolSize snapshot (.initial path disk) saving →
        (saving.stage ≠ .returned → saving.disk.seen? path = disk.seen? path) ∧
        (saving.stage = .returned →
          ∃ value, snapshot.toJson poolSize = .ok value ∧
            saving.disk.seen? path = some (.file (Text.encode value.fileText)) ∧
            ∃ place, saving.disk.besidePlace path = .ok place ∧
              saving.disk.node? place = none) ∧
        ∀ place, saving.Changes path disk place := by
  refine ⟨Saving.reaches_save path poolSize snapshot disk, ?_⟩
  intro saving reached
  have stands := Saving.Stands.of_reaches admits reached
  exact ⟨stands.seen?, stands.complete, stands.changes⟩

/-- A text that is torn while it is written leaves the old file at the target; a saving that goes
through leaves the new one. -/
theorem old_file_kept_behind_torn_text :
    let path : FilePath := .ofString "/out/list.json"
    let target : Place := ["out".toList, "list.json".toList]
    let prepared : Place := ["out".toList, "list.json.tmp".toList]
    let disk : Disk :=
      { working := []
        entries := (Index.empty.insert ["out".toList] .directory).insert target (.file 1)
        contents := Index.empty.insert 1 [0x7b, 0x7d]
        inside := by decide +kernel }
    let snapshot : Snapshot := ⟨[], [], ⟨0, some 0, by decide⟩⟩
    disk.Admits path ∧
      (∃ saving, Saving.Reaches path none snapshot (.initial path disk) saving ∧
        saving.stage = .raised .beyondClock ∧
        saving.disk.held? prepared = some (.file [0x7b]) ∧
        saving.disk.seen? path = some (.file [0x7b, 0x7d])) ∧
      ∃ saving, Saving.Reaches path none snapshot (.initial path disk) saving ∧
        saving.stage = .returned ∧
        ∃ value, snapshot.toJson none = .ok value ∧
          saving.disk.seen? path = some (.file (Text.encode value.fileText)) := by
  intro path target prepared disk snapshot
  have admits : disk.Admits path := by
    have found : disk.placeOf path = .ok target := by decide +kernel
    have present : disk.node? target = some (.file 1) := by decide +kernel
    have besides : disk.besidePlace path = .ok prepared := by decide +kernel
    have vacant : disk.node? prepared = none := by decide +kernel
    refine Disk.admits_of_plain found (by simp [present]) (by simp [present]) ?_
    intro other also
    obtain rfl := Except.ok.inj (besides.symm.trans also)
    exact vacant
  obtain ⟨whole, always⟩ := saving_is_all_or_nothing path none snapshot disk admits
  refine ⟨admits, ?_, ?_⟩
  · let started := Saving.opened path disk (SavePath.above path)
    have building :
        Saving.Reaches path none snapshot (.initial path disk) ⟨.building, started.tree⟩ :=
      Saving.reaches_opened _ (by decide +kernel)
    have torn : started.tree.rewrite ⟨['/'], prepared⟩ (fun _ => [0x7b]) >>=
        (fun next => Except.ok (next.held? prepared)) = .ok (some (.file [0x7b])) := by
      decide +kernel
    obtain ⟨next, tears, remains⟩ := exists_of_bind torn
    have named : path.beside = .ok ⟨['/'], prepared⟩ := by decide +kernel
    have reached : Saving.Reaches path none snapshot (.initial path disk)
        ⟨.raised .beyondClock, next⟩ :=
      building.trans (.head (.built rfl) (.single (.tore _ _ named tears)))
    have present : disk.seen? path = some (.file [0x7b, 0x7d]) := by decide +kernel
    exact ⟨_, reached, rfl, Except.ok.inj remains, ((always _ reached).1 nofun).trans present⟩
  · have returned : (Saving.ofSaved (save path none snapshot disk)).stage = .returned :=
      Saving.stage_ofSaved (by decide +kernel)
    obtain ⟨value, builds, present, -⟩ := (always _ whole).2.1 returned
    exact ⟨_, whole, returned, value, builds, present⟩

/-- What a disk must not have for a saving.  A second name of the file beside the target, a link
there or from the target to it leads what is written to something else.  A target that leads to its
own directory is gone when it is replaced, and a missing directory that a path comes back from lets
a reader through before anything is saved.  Directories above a target may be new. -/
theorem saving_goes_astray :
    let path : FilePath := .ofString "/d/x"
    let place : Place := ["d".toList, "x".toList]
    let prepared : Place := ["d".toList, "x.tmp".toList]
    let other : Place := ["d".toList, "y".toList]
    let directory := Index.empty.insert ["d".toList] DiskEntry.directory
    let contents : Index Nat (List UInt8) := Index.empty.insert 1 [0x7b, 0x7d]
    let old := Disk.Held.file [0x7b, 0x7d]
    let snapshot : Snapshot := ⟨[], [], ⟨0, some 0, by decide⟩⟩
    let named : Disk :=
      ⟨[], (directory.insert place (.file 1)).insert prepared (.file 1), contents,
        by decide +kernel⟩
    let linked : Disk :=
      ⟨[], (directory.insert prepared (.link (.ofString "y"))).insert other (.file 1), contents,
        by decide +kernel⟩
    let linking : Disk :=
      ⟨[], (directory.insert place (.link (.ofString "x.tmp"))).insert prepared (.file 1), contents,
        by decide +kernel⟩
    let back : Disk := ⟨[], directory.insert place (.file 1), contents, by decide +kernel⟩
    let loop : Disk :=
      ⟨[], directory.insert place (.link (.ofString ".")), contents, by decide +kernel⟩
    let empty : Disk := ⟨[], .empty, .empty, by decide +kernel⟩
    (named.seen? path = some old ∧
      ∃ saving, Saving.Reaches path none snapshot (.initial path named) saving ∧
        saving.stage ≠ .returned ∧ saving.disk.seen? path = some (.file [])) ∧
    (linked.held? other = some old ∧
      ∃ saving, Saving.Reaches path none snapshot (.initial path linked) saving ∧
        saving.disk.held? other = some (.file [])) ∧
    (linking.seen? path = some old ∧
      ∃ saving, Saving.Reaches path none snapshot (.initial path linking) saving ∧
        saving.stage ≠ .returned ∧ saving.disk.seen? path = some (.file [])) ∧
    (back.seen? (.ofString "/a/../d/x") = none ∧
      ∃ saving, Saving.Reaches (.ofString "/a/../d/x") none snapshot
          (.initial (.ofString "/a/../d/x") back) saving ∧
        saving.stage ≠ .returned ∧ saving.disk.seen? (.ofString "/a/../d/x") = some old) ∧
    (∃ saving, Saving.Reaches (.ofString "/d/x/x") none snapshot
        (.initial (.ofString "/d/x/x") loop) saving ∧
      saving.stage = .returned ∧ saving.disk.seen? (.ofString "/d/x/x") = none) ∧
    (empty.held? ["d".toList] = none ∧
      ∃ saving, Saving.Reaches path none snapshot (.initial path empty) saving ∧
        saving.stage = .returned ∧ saving.disk.held? ["d".toList] = some .directory) := by
  intro path place prepared other directory contents old snapshot named linked linking back loop empty
  have starts (path : FilePath) (disk : Disk)
      (fine : (Saving.opened path disk (SavePath.above path)).fault = none) :
      Saving.Reaches path none snapshot (.initial path disk)
        ⟨.building, (Saving.opened path disk (SavePath.above path)).tree⟩ :=
    Saving.reaches_opened _ fine
  have saves (path : FilePath) (disk : Disk) := Saving.reaches_save path none snapshot disk
  refine ⟨⟨?_, _, starts path named ?_, nofun, ?_⟩, ⟨?_, _, starts path linked ?_, ?_⟩,
    ⟨?_, _, starts path linking ?_, nofun, ?_⟩, ⟨?_, _, starts _ back ?_, nofun, ?_⟩,
    ⟨_, saves _ loop, Saving.stage_ofSaved ?_, ?_⟩,
    ⟨?_, _, saves path empty, Saving.stage_ofSaved ?_, ?_⟩⟩
  all_goals decide +kernel

end Export

end LeaseRoster
