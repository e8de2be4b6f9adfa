import LeaseRoster.Proofs.NewDirectories

/-!
# Files prepared beside their target

A text is prepared in a file beside its target, which is started, written and put in the place of
the target.  On a disk with links this goes well only if the file beside the target is one of its
own: no link, no second place of another file, and not what the target itself is a link to.  Nor
may the way to the directory of the target lead through the target.
-/

namespace LeaseRoster

namespace Disk

/-! ## Places -/

/-- The place of the file in which a text for a path is prepared. -/
def besidePlace (disk : Disk) (path : FilePath) : Except Fault Place := do
  disk.placeOf (← path.beside)

/-- The place beside a file in some directory. -/
def beside (directory : Place) (name : List Char) : Place := directory ++ [name ++ ".tmp".toList]

theorem tmp_ne_back (name : List Char) : name ++ ".tmp".toList ≠ FilePath.back := by
  intro same
  have lengths := congrArg List.length same
  simp [FilePath.back] at lengths

theorem target_ne_beside (directory : Place) (name : List Char) :
    directory ++ [name] ≠ beside directory name := by
  intro same
  have lengths := congrArg List.length (List.append_cancel_left same)
  have names := congrArg List.length (List.singleton_inj.mp (List.append_cancel_left same))
  simp at names

variable {disk next last : Disk} {path temporary : FilePath} {directory place : Place}
  {name : List Char} {left number : Nat} {bytes : List UInt8}

theorem LeadsInto.unique {names : List (List Char)} {other : Place} {further : Nat}
    (leads : disk.LeadsInto path names directory left)
    (also : disk.LeadsInto path names other further) : directory = other ∧ left = further := by
  have same := leads.1.symm.trans also.1
  cases same
  exact ⟨rfl, rfl⟩

/-- A path leads to the place that it names, unless a link stands there. -/
theorem LeadsInto.reach (leads : disk.LeadsInto path path.parent.names directory left)
    (final : path.names.getLast? = some name) (forward : name ≠ FilePath.back)
    (unlinked : ∀ target, disk.node? (directory ++ [name]) ≠ some (.link target)) :
    disk.reach path = .ok (directory ++ [name]) := by
  rw [reach_eq_ok_iff, FilePath.names_eq_of_getLast? final, walk_append_of_ok leads.1,
    walk_down leads.2 forward unlinked]
  exact ⟨left, walk_nil _ _ _⟩

/-- The path of the prepared file names the place beside the target. -/
theorem names_of_beside (named : path.beside = .ok temporary)
    (final : path.names.getLast? = some name) :
    temporary = { path with names := path.parent.names ++ [name ++ ".tmp".toList] } := by
  obtain ⟨other, also, made⟩ := (path.beside_eq_ok_iff temporary).mp named
  obtain rfl : name = other := Option.some.inj (final.symm.trans also)
  exact made

theorem besidePlace_eq_ok_iff (disk : Disk) (path : FilePath) (place : Place) :
    disk.besidePlace path = .ok place ↔
      ∃ directory name left, path.names.getLast? = some name ∧
        disk.LeadsInto path path.parent.names directory left ∧ place = beside directory name := by
  unfold besidePlace
  cases named : path.beside with
  | error fault =>
    constructor
    · intro found
      cases found
    · rintro ⟨directory, name, left, final, -⟩
      have made := (path.beside_eq_ok_iff _).mpr ⟨name, final, rfl⟩
      rw [named] at made
      cases made
  | ok temporary =>
    obtain ⟨name, final, rfl⟩ := (path.beside_eq_ok_iff temporary).mp named
    change disk.placeOf _ = _ ↔ _
    rw [placeOf_eq_ok_iff, FilePath.parent_beside]
    constructor
    · rintro ⟨directory, other, left, also, -, leads, rfl⟩
      obtain rfl : name ++ ".tmp".toList = other := by simpa using also
      exact ⟨directory, name, left, final, leads, rfl⟩
    · rintro ⟨directory, other, left, also, leads, rfl⟩
      obtain rfl : name = other := Option.some.inj (final.symm.trans also)
      exact ⟨directory, _, left, by simp, tmp_ne_back name, leads, rfl⟩

/-- What saving to a path asks of a disk. -/
structure Admits (disk : Disk) (path : FilePath) : Prop where
  /-- The directory of the target exists, or no name of the path leads back. -/
  direct : disk.IsDirect path
  /-- No link stands beside the target. -/
  unlinked : ∀ place target, disk.besidePlace path = .ok place →
    disk.node? place ≠ some (.link target)
  /-- A file that stands beside the target stands nowhere else. -/
  alone : ∀ place number other, disk.besidePlace path = .ok place →
    disk.node? place = some (.file number) → disk.node? other = some (.file number) →
      other = place
  /-- No links lead from the target to the place beside it. -/
  apart : ∀ place, disk.besidePlace path = .ok place → disk.reach path ≠ .ok place
  /-- The directory of the target is reached without the target. -/
  outside : ∀ place, disk.placeOf path = .ok place →
    disk.reachWithout place path.parent = disk.reach path.parent

/-- In a directory that exists, a plain target with nothing beside it asks no more. -/
theorem admits_of_plain (found : disk.placeOf path = .ok place)
    (plain : disk.node? place ≠ some .directory)
    (unlinked : ∀ target, disk.node? place ≠ some (.link target))
    (vacant : ∀ other, disk.besidePlace path = .ok other → disk.node? other = none) :
    disk.Admits path := by
  obtain ⟨directory, name, left, final, forward, leads, rfl⟩ :=
    (disk.placeOf_eq_ok_iff path place).mp found
  refine ⟨.inl ((disk.isDirectory_iff path.parent).mpr ⟨directory, left, leads⟩), ?_, ?_, ?_, ?_⟩
  · intro other target besides
    rw [vacant other besides]
    nofun
  · intro other number _ besides present
    rw [vacant other besides] at present
    cases present
  · intro other besides reached
    obtain ⟨_, _, _, sameFinal, sameLeads, rfl⟩ := (disk.besidePlace_eq_ok_iff path other).mp besides
    obtain rfl := Option.some.inj (final.symm.trans sameFinal)
    obtain ⟨rfl, rfl⟩ := leads.unique sameLeads
    have ends := leads.reach final forward unlinked
    exact target_ne_beside _ _ (Except.ok.inj (ends.symm.trans reached))
  · intro target also
    obtain rfl := Except.ok.inj (found.symm.trans also)
    have shows : Shows disk.node?
        (fun other => if other = directory ++ [name] then none else disk.node? other) := by
      constructor
      · intro other target
        by_cases same : other = directory ++ [name]
        · simp [same, unlinked target]
        · rw [if_neg same]
      · intro other here
        have apart : other ≠ directory ++ [name] := by
          rintro rfl
          exact plain here
        rw [if_neg apart]
        exact here
    have reached := (disk.reach_eq_ok_iff path.parent directory).mpr ⟨left, leads.1⟩
    rw [reached, reachWithout, reachIn]
    exact congrArg (Except.map Prod.fst) (walk_shows shows leads.1)

/-! ## Sites -/

/-- The directory of a target exists, and a file can be prepared in it. -/
structure Site (disk : Disk) (path : FilePath) (directory : Place) (name : List Char)
    (left : Nat) : Prop where
  final : path.names.getLast? = some name
  leads : disk.LeadsInto path path.parent.names directory left
  unlinked : ∀ target, disk.node? (beside directory name) ≠ some (.link target)
  alone : ∀ number other, disk.node? (beside directory name) = some (.file number) →
    disk.node? other = some (.file number) → other = beside directory name
  apart : disk.reach path ≠ .ok (beside directory name)
  outside : name ≠ FilePath.back → ∃ further,
    walk (fun other => if other = directory ++ [name] then none else disk.node? other) linkLimit
      (startFrom disk.working path) path.parent.names = .ok (directory, further)

theorem Admits.site (admits : disk.Admits path) (final : path.names.getLast? = some name)
    (leads : disk.LeadsInto path path.parent.names directory left) :
    Site disk path directory name left := by
  have besides : disk.besidePlace path = .ok (beside directory name) :=
    (disk.besidePlace_eq_ok_iff path _).mpr ⟨directory, name, left, final, leads, rfl⟩
  refine ⟨final, leads, fun target => admits.unlinked _ target besides,
    fun number other => admits.alone _ number other besides, admits.apart _ besides, ?_⟩
  intro forward
  have found : disk.placeOf path = .ok (directory ++ [name]) :=
    (disk.placeOf_eq_ok_iff path _).mpr ⟨directory, name, left, final, forward, leads, rfl⟩
  have reached := (disk.reach_eq_ok_iff path.parent directory).mpr ⟨left, leads.1⟩
  have without := (admits.outside _ found).trans reached
  unfold reachWithout reachIn at without
  cases walked : walk (fun other => if other = directory ++ [name] then none else disk.node? other)
      linkLimit (startFrom disk.working path.parent) path.parent.names with
  | error fault =>
    rw [walked] at without
    cases without
  | ok middle =>
    rw [walked] at without
    obtain rfl := Except.ok.inj without
    exact ⟨middle.2, walked⟩

/-- When all directories above a file have been made, either none was missing or the one that the
file goes to is new and empty. -/
theorem Making.still_or_vacant {reached : Disk}
    (making : Making disk path path.parent.names reached)
    (leads : reached.LeadsInto path path.parent.names directory left) :
    reached = disk ∨ FilePath.back ∉ path.names ∧
      ∀ name, reached.node? (directory ++ [name]) = none := by
  cases making with
  | still => exact .inl rfl
  | @grown _ way fresh base further split forward before grown =>
    have onwards := grown.leadsInto before (Making.back_not_mem (List.prefix_refl _) split forward)
    rw [← split] at onwards
    obtain ⟨rfl, rfl⟩ := onwards.unique leads
    exact .inr ⟨forward, grown.beyond⟩

/-- The site of a saving when all directories above the target have been made. -/
theorem Admits.site_of_making {reached : Disk} (admits : disk.Admits path)
    (making : Making disk path path.parent.names reached)
    (final : path.names.getLast? = some name)
    (leads : reached.LeadsInto path path.parent.names directory left) :
    Site reached path directory name left := by
  rcases making.still_or_vacant leads with rfl | ⟨noBack, vacant⟩
  · exact admits.site final leads
  · have names := FilePath.names_eq_of_getLast? final
    have forward : name ≠ FilePath.back := by
      rintro rfl
      refine noBack ?_
      rw [names]
      simp
    refine ⟨final, leads, ?_, ?_, ?_, fun _ => ⟨left, ?_⟩⟩
    · intro target
      rw [beside, vacant]
      nofun
    · intro number other present
      rw [beside, vacant] at present
      cases present
    · rw [leads.reach final forward (by simp [vacant])]
      intro same
      exact target_ne_beside _ _ (Except.ok.inj same)
    · have look : (fun other => if other = directory ++ [name] then none
          else reached.node? other) = reached.node? := by
        funext other
        by_cases same : other = directory ++ [name]
        · rw [if_pos same, same, vacant]
        · rw [if_neg same]
      rw [look]
      exact leads.1

/-- The path of the prepared file leads to the place beside the target, where no link stands. -/
theorem reach_beside (named : path.beside = .ok temporary)
    (final : path.names.getLast? = some name)
    (leads : disk.LeadsInto path path.parent.names directory left)
    (unlinked : ∀ target, disk.node? (beside directory name) ≠ some (.link target)) :
    disk.reach temporary = .ok (beside directory name) := by
  obtain rfl := names_of_beside named final
  have beneath : disk.LeadsInto path (FilePath.parent
      { path with names := path.parent.names ++ [name ++ ".tmp".toList] }).names directory left := by
    rw [FilePath.parent_beside]
    exact leads
  refine LeadsInto.reach beneath ?_ (tmp_ne_back name) unlinked
  simp

/-! ## Prepared files -/

/-- A disk with a file at some place that is one of its own. -/
structure Prepared (disk next : Disk) (place : Place) (number : Nat) (bytes : List UInt8) :
    Prop where
  working : next.working = disk.working
  entries : ∀ other, next.node? other =
    if other = place then some (.file number) else disk.node? other
  contents : ∀ other, next.content other = if other = number then bytes else disk.content other
  standing : disk.node? place = none ∨ disk.node? place = some (.file number)
  alone : ∀ other, disk.node? other = some (.file number) → other = place

namespace Prepared

variable (prepared : Prepared disk next place number bytes)
include prepared

theorem present : next.node? place = some (.file number) := by
  rw [prepared.entries, if_pos rfl]

theorem shows : Shows disk.node? next.node? := by
  constructor
  · intro other target
    rw [prepared.entries]
    by_cases same : other = place
    · subst same
      rcases prepared.standing with vacant | standing <;> simp [*]
    · rw [if_neg same]
  · intro other here
    have apart : other ≠ place := by
      rintro rfl
      rcases prepared.standing with vacant | standing <;> simp_all
    rw [prepared.entries, if_neg apart, here]

theorem shows_back : Shows next.node? disk.node? := by
  refine ⟨fun other target => (prepared.shows.links other target).symm, fun other here => ?_⟩
  rw [prepared.entries] at here
  split at here
  · cases here
  · exact here

theorem held? {other : Place} (apart : other ≠ place) : next.held? other = disk.held? other := by
  refine held?_congr (by rw [prepared.entries, if_neg apart]) fun found present => ?_
  have different : found ≠ number := by
    rintro rfl
    exact apart (prepared.alone other present)
  rw [prepared.contents, if_neg different]

theorem seen? (unled : disk.reach path ≠ .ok place) : next.seen? path = disk.seen? path := by
  refine seen?_congr prepared.working prepared.shows prepared.shows_back fun other reached => ?_
  refine prepared.held? ?_
  rintro rfl
  exact unled reached

theorem leads (leads : disk.LeadsInto path path.parent.names directory left) :
    next.LeadsInto path path.parent.names directory left := by
  refine ⟨?_, prepared.shows.directories directory leads.2⟩
  rw [prepared.working]
  exact walk_shows prepared.shows leads.1

theorem refill (content : List UInt8) :
    Prepared disk (next.fill number content) place number content := by
  refine ⟨prepared.working, prepared.entries, fun other => ?_, prepared.standing, prepared.alone⟩
  rw [content_fill, prepared.contents]
  split <;> rfl

end Prepared

section Steps

variable (site : Site disk path directory name left)
include site

/-- A file that is started beside its target is one of its own and empty. -/
theorem Site.prepared_of_startFile (named : path.beside = .ok temporary)
    (starts : disk.startFile temporary = .ok next) :
    ∃ number, Prepared disk next (beside directory name) number [] := by
  have reached := reach_beside named site.final site.leads site.unlinked
  unfold startFile at starts
  obtain ⟨place, found, starts⟩ := exists_of_bind starts
  obtain rfl := Except.ok.inj (reached.symm.trans found)
  split at starts
  · rename_i vacant
    obtain ⟨empty, puts, starts⟩ := exists_of_bind starts
    obtain rfl := Except.ok.inj starts
    obtain ⟨-, working, contents, entries⟩ := put_eq_ok puts
    refine ⟨disk.freshNumber, working, entries, fun other => ?_, .inl vacant, ?_⟩
    · rw [content_fill, content_of_contents contents]
    · intro other present
      exact absurd (lt_freshNumber present) (Nat.lt_irrefl _)
  · rename_i number standing
    obtain rfl := Except.ok.inj starts
    refine ⟨number, rfl, fun other => ?_, fun other => content_fill disk number other [], .inr standing,
      fun other => site.alone number other standing⟩
    by_cases same : other = beside directory name
    · rw [if_pos same, same]
      exact standing
    · rw [if_neg same]
      rfl
  · cases starts
  · cases starts

/-- Rewriting the prepared file changes its content only. -/
theorem Site.prepared_of_rewrite
    (prepared : Prepared disk next (beside directory name) number bytes)
    (named : path.beside = .ok temporary) {change : List UInt8 → List UInt8}
    (rewrites : next.rewrite temporary change = .ok last) :
    Prepared disk last (beside directory name) number (change bytes) := by
  have unlinked (target : FilePath) :
      next.node? (beside directory name) ≠ some (.link target) := by
    rw [prepared.present]
    nofun
  have reached := reach_beside named site.final (prepared.leads site.leads) unlinked
  obtain ⟨place, found, also, present, rfl⟩ := rewrite_eq_ok rewrites
  obtain rfl := Except.ok.inj (reached.symm.trans also)
  rw [prepared.present] at present
  cases present
  have content : next.content number = bytes := by rw [prepared.contents, if_pos rfl]
  rw [content]
  exact prepared.refill _

/-- A prepared file has been put in the place of its target. -/
structure Replaced (disk next : Disk) (directory : Place) (name : List Char) (number : Nat)
    (bytes : List UInt8) : Prop where
  working : next.working = disk.working
  gone : next.node? (beside directory name) = none
  target : next.node? (directory ++ [name]) = some (.file number)
  content : next.content number = bytes
  forward : name ≠ FilePath.back
  vacant : disk.node? (directory ++ [name]) ≠ some .directory
  standing : disk.node? (beside directory name) ≠ some .directory
  others : ∀ other, other ≠ directory ++ [name] → other ≠ beside directory name →
    next.node? other = disk.node? other ∧ next.held? other = disk.held? other

theorem Site.replaced_of_replace
    (prepared : Prepared disk next (beside directory name) number bytes)
    (named : path.beside = .ok temporary) (replaces : next.replace temporary path = .ok last) :
    Replaced disk last directory name number bytes := by
  have leads := prepared.leads site.leads
  have different := target_ne_beside directory name
  unfold replace at replaces
  obtain ⟨old, source, replaces⟩ := exists_of_bind replaces
  obtain ⟨new, found, replaces⟩ := exists_of_bind replaces
  obtain ⟨_, last', _, final, forward, also, rfl⟩ := (next.placeOf_eq_ok_iff path new).mp found
  obtain rfl : name = last' := Option.some.inj (site.final.symm.trans final)
  obtain ⟨rfl, rfl⟩ := leads.unique also
  have besides : next.besidePlace path = .ok old := by
    rw [besidePlace, named]
    exact source
  obtain ⟨_, _, _, sameFinal, sameLeads, rfl⟩ := (next.besidePlace_eq_ok_iff path old).mp besides
  obtain rfl := Option.some.inj (site.final.symm.trans sameFinal)
  obtain ⟨rfl, rfl⟩ := leads.unique sameLeads
  have notSame : next.node? (directory ++ [name]) ≠ some (.file number) := by
    rw [prepared.entries, if_neg different]
    intro present
    exact different (prepared.alone _ present)
  simp only [prepared.present, if_neg notSame] at replaces
  obtain ⟨moved, puts, removes⟩ := exists_of_bind replaces
  obtain ⟨vacant, movedWorking, movedContents, movedEntries⟩ := put_eq_ok puts
  obtain ⟨working, contents, entries⟩ := remove_eq_ok removes
  have sameContent (number : Nat) : last.content number = next.content number :=
    content_of_contents (contents.trans movedContents) number
  refine ⟨(working.trans movedWorking).trans prepared.working, ?_, ?_, ?_, forward, ?_, ?_, ?_⟩
  · rw [entries, if_pos rfl]
  · rw [entries, if_neg different, movedEntries, if_pos rfl]
  · rw [sameContent, prepared.contents, if_pos rfl]
  · rwa [prepared.entries, if_neg different] at vacant
  · rcases prepared.standing with nothing | standing <;> simp [*]
  · intro place notTarget notBeside
    have entry : last.node? place = next.node? place := by
      rw [entries, if_neg notBeside, movedEntries, if_neg notTarget]
    refine ⟨?_, ?_⟩
    · rw [entry, prepared.entries, if_neg notBeside]
    · rw [← prepared.held? notBeside]
      exact held?_congr entry fun number _ => sameContent number

/-- The way to the directory of the target is the same when the target is a file. -/
theorem Site.leads_of_replaced (replaced : Replaced disk next directory name number bytes) :
    ∃ further, next.LeadsInto path path.parent.names directory further := by
  obtain ⟨further, walked⟩ := site.outside replaced.forward
  have shows : Shows
      (fun other => if other = directory ++ [name] then none else disk.node? other)
      next.node? := by
    constructor
    · intro other target
      by_cases atTarget : other = directory ++ [name]
      · subst atTarget
        simp [replaced.target]
      · rw [if_neg atTarget]
        by_cases atBeside : other = beside directory name
        · subst atBeside
          simp [replaced.gone, site.unlinked target]
        · rw [(replaced.others other atTarget atBeside).1]
    · intro other here
      by_cases atTarget : other = directory ++ [name]
      · simp [atTarget] at here
      · rw [if_neg atTarget] at here
        have apart : other ≠ beside directory name := by
          rintro rfl
          exact replaced.standing here
        rw [(replaced.others other atTarget apart).1, here]
  have apartTarget : directory ≠ directory ++ [name] := by simp
  have apartBeside : directory ≠ beside directory name := by simp [beside]
  refine ⟨further, ?_, ?_⟩
  · rw [replaced.working]
    exact walk_shows shows walked
  · rw [(replaced.others directory apartTarget apartBeside).1]
    exact site.leads.2

/-- In the place of no link a file leads nobody elsewhere. -/
theorem Site.shows_of_replaced (replaced : Replaced disk next directory name number bytes)
    (plain : ∀ target, disk.node? (directory ++ [name]) ≠ some (.link target)) :
    Shows disk.node? next.node? := by
  constructor
  · intro other target
    by_cases atTarget : other = directory ++ [name]
    · subst atTarget
      simp [replaced.target, plain target]
    · by_cases atBeside : other = beside directory name
      · subst atBeside
        simp [replaced.gone, site.unlinked target]
      · rw [(replaced.others other atTarget atBeside).1]
  · intro other here
    have atTarget : other ≠ directory ++ [name] := by
      rintro rfl
      exact replaced.vacant here
    have atBeside : other ≠ beside directory name := by
      rintro rfl
      exact replaced.standing here
    rw [(replaced.others other atTarget atBeside).1, here]

/-- The places beside and at the target are named by the path on the disk afterwards. -/
theorem Site.places_of_replaced (replaced : Replaced disk next directory name number bytes) :
    next.besidePlace path = .ok (beside directory name) ∧
      next.placeOf path = .ok (directory ++ [name]) := by
  obtain ⟨further, leads⟩ := site.leads_of_replaced replaced
  exact ⟨(next.besidePlace_eq_ok_iff path _).mpr ⟨directory, name, further, site.final, leads, rfl⟩,
    (next.placeOf_eq_ok_iff path _).mpr
      ⟨directory, name, further, site.final, replaced.forward, leads, rfl⟩⟩

/-- A reader finds the prepared text at the target. -/
theorem Site.seen?_of_replaced (replaced : Replaced disk next directory name number bytes) :
    next.seen? path = some (.file bytes) := by
  obtain ⟨further, leads⟩ := site.leads_of_replaced replaced
  have reached := leads.reach site.final replaced.forward (by simp [replaced.target])
  rw [Disk.seen?, reached]
  simp [Disk.held?, replaced.target, replaced.content]

end Steps

end Disk

end LeaseRoster
