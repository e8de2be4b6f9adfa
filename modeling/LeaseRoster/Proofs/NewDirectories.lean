import LeaseRoster.Proofs.DiskChanges

/-!
# New directories

The directories above a file are made one after the other.  Either nothing is missing on the way,
or they are new from the first missing one on, each inside the one before.  What is new was not
there before, so that the file is not found while they are made, and everything else stays.
-/

namespace LeaseRoster

namespace FilePath

theorem mem_along_iff (path directory : FilePath) (names : List (List Char)) :
    directory ∈ path.along names ↔
      ∃ made, made ≠ [] ∧ made <+: names ∧
        directory = { path with names := path.names ++ made } := by
  induction names generalizing path with
  | nil => simp [along]
  | cons name rest ih =>
    rw [along, List.mem_cons, ih]
    constructor
    · rintro (rfl | ⟨made, named, before, rfl⟩)
      · exact ⟨[name], List.cons_ne_nil _ _, List.prefix_append [name] rest, rfl⟩
      · exact ⟨name :: made, List.cons_ne_nil _ _, List.cons_prefix_cons.mpr ⟨rfl, before⟩,
          by simp⟩
    · rintro ⟨made, named, before, rfl⟩
      cases made with
      | nil => exact absurd rfl named
      | cons first others =>
        obtain ⟨rfl, further⟩ := List.cons_prefix_cons.mp before
        cases others with
        | nil => exact .inl rfl
        | cons next later => exact .inr ⟨next :: later, List.cons_ne_nil _ _, further, by simp⟩

end FilePath

namespace Disk

/-- New directories below a place, one for each of some names.  The first one was missing. -/
structure Grown (disk next : Disk) (base : Place) (names : List (List Char)) : Prop where
  working : next.working = disk.working
  contents : next.contents = disk.contents
  vacant : ∃ name rest, names = name :: rest ∧ disk.node? (base ++ [name]) = none
  new : ∀ made, made ≠ [] → made <+: names → next.node? (base ++ made) = some .directory
  old : ∀ place, (∀ made, made ≠ [] → made <+: names → place ≠ base ++ made) →
    next.node? place = disk.node? place

namespace Grown

variable {disk next last : Disk} {base start : Place} {names way : List (List Char)}
  {limit left : Nat} (grown : Grown disk next base names)
include grown

theorem vacant_below {made : List (List Char)} (named : made ≠ [])
    (along : made <+: names ∨ names <+: made) : disk.node? (base ++ made) = none := by
  obtain ⟨name, rest, rfl, vacant⟩ := grown.vacant
  cases made with
  | nil => exact absurd rfl named
  | cons first others =>
    obtain rfl : first = name := by
      rcases along with before | behind
      · exact (List.cons_prefix_cons.mp before).1
      · exact (List.cons_prefix_cons.mp behind).1.symm
    have below := node?_below vacant others
    rwa [List.append_assoc] at below

theorem beyond (name : List Char) : next.node? (base ++ names ++ [name]) = none := by
  rw [List.append_assoc, grown.old]
  · exact grown.vacant_below (by simp) (.inr (List.prefix_append names [name]))
  · intro made _ before same
    have longer := before.length_le
    rw [← List.append_cancel_left same] at longer
    simp at longer

theorem shows : Shows disk.node? next.node? := by
  have cases (place : Place) : next.node? place = disk.node? place ∨
      disk.node? place = none ∧ next.node? place = some .directory := by
    by_cases fresh : ∃ made, made ≠ [] ∧ made <+: names ∧ place = base ++ made
    · obtain ⟨made, named, before, rfl⟩ := fresh
      exact .inr ⟨grown.vacant_below named (.inl before), grown.new made named before⟩
    · refine .inl (grown.old place fun made named before same => fresh ?_)
      exact ⟨made, named, before, same⟩
  constructor
  · intro place target
    rcases cases place with same | ⟨vacant, directory⟩
    · rw [same]
    · simp [vacant, directory]
  · intro place here
    rcases cases place with same | ⟨vacant, -⟩
    · rw [same, here]
    · rw [vacant] at here
      cases here

/-- The names lead from directory to directory. -/
theorem walk (leads : Disk.walk disk.node? limit start way = .ok (base, left))
    (here : disk.node? base = some .directory) (forward : FilePath.back ∉ names)
    {made : List (List Char)} (before : made <+: names) :
    Disk.walk next.node? limit start (way ++ made) = .ok (base ++ made, left) := by
  rw [walk_append_of_ok (walk_shows grown.shows leads)]
  refine walk_down_all (fun member => forward (before.subset member)) fun part above => ?_
  by_cases named : part = []
  · rw [named, List.append_nil]
    exact grown.shows.directories base here
  · exact grown.new part named (above.trans before)

theorem directory : next.node? (base ++ names) = some .directory := by
  obtain ⟨name, rest, rfl, -⟩ := grown.vacant
  exact grown.new _ (List.cons_ne_nil _ _) (List.prefix_refl _)

theorem leadsInto {path : FilePath} (leads : disk.LeadsInto path way base left)
    (forward : FilePath.back ∉ names) :
    next.LeadsInto path (way ++ names) (base ++ names) left := by
  refine ⟨?_, grown.directory⟩
  rw [grown.working]
  exact grown.walk leads.1 leads.2 forward (List.prefix_refl _)

theorem extend {name : List Char} (working : last.working = next.working)
    (contents : last.contents = next.contents)
    (entries : ∀ other, last.node? other =
      if other = base ++ names ++ [name] then some .directory else next.node? other) :
    Grown disk last base (names ++ [name]) := by
  refine ⟨working.trans grown.working, contents.trans grown.contents, ?_, ?_, ?_⟩
  · obtain ⟨first, rest, rfl, vacant⟩ := grown.vacant
    exact ⟨first, rest ++ [name], rfl, vacant⟩
  · intro made named before
    rw [entries]
    rcases List.prefix_concat_iff.mp before with rfl | earlier
    · rw [if_pos (List.append_assoc _ _ _).symm]
    · rw [grown.new made named earlier, ite_self]
  · intro place apart
    have other : place ≠ base ++ names ++ [name] := by
      rw [List.append_assoc]
      exact apart _ (by simp) (List.prefix_refl _)
    rw [entries, if_neg other]
    exact grown.old place fun made named before =>
      apart made named (before.trans (List.prefix_append names [name]))

end Grown

/-- A path that comes by a place where nothing stands leads a reader to nothing. -/
theorem seen?_of_vacant {disk : Disk} {path : FilePath} {directory : Place} {left : Nat}
    {way rest : List (List Char)} {name : List Char}
    (leads : disk.LeadsInto path way directory left) (names : path.names = way ++ name :: rest)
    (forward : name ≠ FilePath.back) (vacant : disk.node? (directory ++ [name]) = none) :
    disk.seen? path = none := by
  obtain ⟨walked, here⟩ := leads
  unfold seen?
  cases reached : disk.reach path with
  | error fault => rfl
  | ok place =>
    obtain ⟨further, found⟩ := (disk.reach_eq_ok_iff path place).mp reached
    rw [names, walk_append_of_ok walked] at found
    rcases walk_vacant here forward vacant with ⟨ends, -⟩ | ⟨fault, stops⟩
    · rw [ends] at found
      cases found
      simp [held?, vacant]
    · rw [stops] at found
      cases found

/-- The directory of a file exists, or no name of its path leads back. -/
def IsDirect (disk : Disk) (path : FilePath) : Prop :=
  disk.isDirectory path.parent = true ∨ FilePath.back ∉ path.names

theorem isDirectory_iff (disk : Disk) (path : FilePath) :
    disk.isDirectory path = true ↔ ∃ place left, disk.LeadsInto path path.names place left := by
  unfold isDirectory LeadsInto
  cases reached : disk.reach path with
  | error fault =>
    refine iff_of_false nofun ?_
    rintro ⟨place, left, leads, -⟩
    have found := (disk.reach_eq_ok_iff path place).mpr ⟨left, leads⟩
    rw [reached] at found
    cases found
  | ok place =>
    obtain ⟨left, leads⟩ := (disk.reach_eq_ok_iff path place).mp reached
    rw [beq_iff_eq]
    constructor
    · intro here
      exact ⟨place, left, leads, here⟩
    · rintro ⟨other, further, also, here⟩
      rw [leads] at also
      cases also
      exact here

/-- The directories along some names of a path have been made, so far as they were missing. -/
inductive Making (disk : Disk) (path : FilePath) (done : List (List Char)) : Disk → Prop
  | still : Making disk path done disk
  | grown {next : Disk} {way names : List (List Char)} {base : Place} {left : Nat}
      (split : done = way ++ names) (forward : FilePath.back ∉ path.names)
      (leads : disk.LeadsInto path way base left) (grown : Grown disk next base names) :
      Making disk path done next

/-- A place where a directory above a path is new. -/
structure IsNew (disk next : Disk) (path : FilePath) (place : Place) : Prop where
  vacant : disk.node? place = none
  directory : next.node? place = some .directory
  above : ∃ directory ∈ SavePath.above path, next.reach directory = .ok place

/-- A new directory stays new on a disk that shows as much. -/
theorem IsNew.mono {disk reached next : Disk} {path : FilePath} {place : Place}
    (new : IsNew disk reached path place) (working : next.working = reached.working)
    (shows : Shows reached.node? next.node?) : IsNew disk next path place := by
  obtain ⟨directory, above, leads⟩ := new.above
  obtain ⟨left, walked⟩ := (reached.reach_eq_ok_iff directory place).mp leads
  refine ⟨new.vacant, shows.directories place new.directory, directory, above, ?_⟩
  rw [reach_eq_ok_iff, working]
  exact ⟨left, walk_shows shows walked⟩

namespace Making

variable {disk reached next : Disk} {path : FilePath} {done rest : List (List Char)}
  {name : List Char}

theorem parent_names_eq (path : FilePath) : path.parent.names = path.names.dropLast := rfl

theorem exists_of_prefix_parent (part : done <+: path.parent.names) (made : done ≠ []) :
    ∃ name rest, path.names = done ++ name :: rest := by
  obtain ⟨more, whole⟩ := part
  have named : path.names ≠ [] := by
    intro nothing
    rw [parent_names_eq, nothing] at whole
    exact made (List.append_eq_nil_iff.mp whole).1
  have names := List.dropLast_append_getLast named
  rw [← parent_names_eq, ← whole, List.append_assoc] at names
  cases more with
  | nil => exact ⟨_, [], names.symm⟩
  | cons name others => exact ⟨name, _, names.symm⟩

/-- No name leads back among those that are made, if none does in the whole path. -/
theorem back_not_mem {way names : List (List Char)} (part : done <+: path.parent.names)
    (split : done = way ++ names) (forward : FilePath.back ∉ path.names) :
    FilePath.back ∉ names := by
  intro member
  refine forward (List.mem_of_mem_dropLast (part.subset ?_))
  rw [split]
  exact List.mem_append_right way member

/-- One more directory is made. -/
theorem makeDirectory (making : Making disk path done reached) (direct : disk.IsDirect path)
    (split : path.parent.names = done ++ name :: rest)
    (made : reached.makeDirectory ⟨path.root, done ++ [name]⟩ = .ok next) :
    Making disk path (done ++ [name]) next := by
  have above : FilePath.parent ⟨path.root, done ++ [name]⟩ = ⟨path.root, done⟩ := by
    simp [FilePath.parent]
  -- Where the directory is made stands nothing yet, just below where the names so far lead.
  have placed {disk : Disk} {place : Place}
      (found : disk.placeOf ⟨path.root, done ++ [name]⟩ = .ok place) :
      ∃ directory left, name ≠ FilePath.back ∧ disk.LeadsInto path done directory left ∧
        place = directory ++ [name] := by
    obtain ⟨directory, last, left, named, forward, leads, rfl⟩ :=
      (disk.placeOf_eq_ok_iff _ place).mp found
    obtain rfl : name = last := by simpa using named
    rw [above] at leads
    exact ⟨directory, left, forward, leads, rfl⟩
  cases making with
  | still =>
    rcases makeDirectory_cases made with one | ⟨rfl, -⟩
    · obtain ⟨place, found, vacant, working, contents, entries⟩ := makeOne_eq_ok one
      obtain ⟨directory, left, forward, leads, rfl⟩ := placed found
      rcases direct with exists_ | noBack
      · -- Nothing is missing on the way to a directory that exists.
        obtain ⟨parent, further, ⟨walked, here⟩⟩ := (disk.isDirectory_iff path.parent).mp exists_
        have start : startFrom disk.working path.parent = startFrom disk.working path := rfl
        rw [start, split, walk_append_of_ok leads.1] at walked
        rcases walk_vacant leads.2 forward vacant with ⟨ends, -⟩ | ⟨fault, stops⟩
        · rw [ends] at walked
          cases walked
          rw [vacant] at here
          cases here
        · rw [stops] at walked
          cases walked
      · refine .grown rfl noBack leads ⟨working, contents, ⟨name, [], rfl, vacant⟩, ?_, ?_⟩
        · intro part named before
          obtain rfl : part = [name] := by
            rcases List.prefix_cons_iff.mp before with rfl | ⟨more, rfl, nothing⟩
            · exact absurd rfl named
            · rw [List.prefix_nil.mp nothing]
          rw [entries, if_pos rfl]
        · intro place apart
          rw [entries, if_neg (apart [name] (by simp) (List.prefix_refl _))]
    · exact .still
  | @grown _ way names base left splitDone forward leads grown =>
    have noBack := back_not_mem ⟨_, split.symm⟩ splitDone forward
    have nameForward : name ≠ FilePath.back := by
      rintro rfl
      refine forward (List.mem_of_mem_dropLast ?_)
      rw [← parent_names_eq, split]
      simp
    have onwards := grown.leadsInto leads noBack
    rw [← splitDone] at onwards
    have found : reached.placeOf ⟨path.root, done ++ [name]⟩ = .ok (base ++ names ++ [name]) := by
      rw [placeOf_eq_ok_iff, above]
      exact ⟨base ++ names, name, left, by simp, nameForward, onwards, rfl⟩
    rcases makeDirectory_cases made with one | ⟨-, present⟩
    · obtain ⟨place, also, -, working, contents, entries⟩ := makeOne_eq_ok one
      obtain rfl := Except.ok.inj (found.symm.trans also)
      exact .grown (by rw [splitDone, List.append_assoc]) forward leads
        (grown.extend working contents entries)
    · obtain ⟨made, one⟩ := makeOne_of_vacant found (grown.beyond name)
      rw [one] at present
      cases present

/-- While directories are made a reader finds at the target what was there. -/
theorem seen? (making : Making disk path done reached) (part : done <+: path.parent.names) :
    reached.seen? path = disk.seen? path := by
  cases making with
  | still => rfl
  | @grown _ way fresh base left split forward leads grown =>
    have made : done ≠ [] := by
      obtain ⟨first, others, rfl, -⟩ := grown.vacant
      simp [split]
    obtain ⟨name, rest, names⟩ := exists_of_prefix_parent part made
    have noBack := back_not_mem part split forward
    have before : disk.seen? path = none := by
      obtain ⟨first, others, rfl, vacant⟩ := grown.vacant
      have through : path.names = way ++ first :: (others ++ name :: rest) := by
        rw [names, split]
        simp
      exact seen?_of_vacant leads through (List.ne_of_not_mem_cons noBack).symm vacant
    have onwards := grown.leadsInto leads noBack
    rw [← split] at onwards
    have nameForward : name ≠ FilePath.back := by
      rintro rfl
      refine forward ?_
      rw [names]
      simp
    rw [before]
    exact seen?_of_vacant onwards names nameForward (grown.beyond name)

/-- Everything that stood stays, and only directories above the path are new. -/
theorem held? (making : Making disk path done reached) (part : done <+: path.parent.names)
    (place : Place) :
    reached.held? place = disk.held? place ∨ IsNew disk reached path place := by
  cases making with
  | still => exact .inl rfl
  | @grown _ way names base left split forward leads grown =>
    by_cases fresh : ∃ made, made ≠ [] ∧ made <+: names ∧ place = base ++ made
    · obtain ⟨made, named, before, rfl⟩ := fresh
      have noBack := back_not_mem part split forward
      refine .inr ⟨grown.vacant_below named (.inl before), grown.new made named before,
        ⟨path.root, way ++ made⟩, ?_, ?_⟩
      · refine (FilePath.mem_along_iff _ _ _).mpr ⟨way ++ made, by simp [named], ?_, rfl⟩
        refine List.IsPrefix.trans ?_ part
        rw [split]
        exact (List.prefix_append_right_inj way).mpr before
      · rw [reach_eq_ok_iff, grown.working]
        exact ⟨left, grown.walk leads.1 leads.2 noBack before⟩
    · refine .inl (held?_congr (grown.old place ?_) fun number _ =>
        content_of_contents grown.contents number)
      intro made named before same
      exact fresh ⟨made, named, before, same⟩

end Making

end Disk

end LeaseRoster
