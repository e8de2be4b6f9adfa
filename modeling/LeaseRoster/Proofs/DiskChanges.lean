import LeaseRoster.Proofs.DiskWays
import Mathlib.Algebra.Order.BigOperators.Group.List
import Mathlib.Algebra.Order.Group.Nat

/-!
# Changes of a disk

Every change of a disk is said once: what stands at which place afterwards, and which file has
which content.  Below a place where nothing stands there is nothing either.
-/

namespace LeaseRoster

theorem Text.encode_append (left right : List Char) :
    Text.encode (left ++ right) = Text.encode left ++ Text.encode right :=
  List.flatMap_append

namespace FilePath

theorem beside_eq_ok_iff (path temporary : FilePath) :
    path.beside = .ok temporary ↔
      ∃ name, path.names.getLast? = some name ∧
        temporary = { path with names := path.parent.names ++ [name ++ ".tmp".toList] } := by
  unfold beside
  cases path.names.getLast? with
  | none => simp
  | some name => simp [parent, eq_comm]

theorem parent_beside (path : FilePath) (name : List Char) :
    parent { path with names := path.parent.names ++ [name] } = path.parent := by
  simp [parent]

theorem names_eq_of_getLast? {path : FilePath} {name : List Char}
    (last : path.names.getLast? = some name) : path.names = path.parent.names ++ [name] :=
  (List.dropLast_append_getLast? name last).symm

end FilePath

namespace Disk

variable {disk next : Disk} {place other : Place} {entry : DiskEntry} {path : FilePath}

/-! ## Entries -/

theorem node?_nil (disk : Disk) : disk.node? [] = some .directory := rfl

theorem ne_nil_of_not_directory (standing : disk.node? place ≠ some .directory) : place ≠ [] := by
  rintro rfl
  exact standing disk.node?_nil

/-- Everything stands in a directory. -/
theorem node?_dropLast (present : disk.node? place = some entry) :
    disk.node? place.dropLast = some .directory := by
  by_cases root : place = []
  · subst root
    exact disk.node?_nil
  · rw [node?, DiskEntry.find?, if_neg root] at present
    exact disk.inside _ (Index.mem_of_findIn present)

theorem node?_below (vacant : disk.node? place = none) (more : Place) :
    disk.node? (place ++ more) = none := by
  induction more using List.reverseRecOn with
  | nil => rwa [List.append_nil]
  | append_singleton more name ih =>
    refine Option.eq_none_iff_forall_ne_some.mpr fun entry present => ?_
    have above := node?_dropLast present
    rw [← List.append_assoc, List.dropLast_concat, ih] at above
    cases above

theorem lt_freshNumber {number : Nat} (present : disk.node? place = some (.file number)) :
    number < disk.freshNumber := by
  have named : place ≠ [] := by
    rintro rfl
    rw [disk.node?_nil] at present
    cases present
  rw [node?, DiskEntry.find?, if_neg named] at present
  have member := List.mem_map_of_mem (f := fun entry : Place × DiskEntry => entry.2.number)
    (Index.mem_of_findIn present)
  exact Nat.lt_succ_of_le (List.le_sum_of_mem member)

theorem put_eq_ok (done : disk.put place entry = .ok next) :
    disk.node? place ≠ some .directory ∧ next.working = disk.working ∧
      next.contents = disk.contents ∧
      ∀ other, next.node? other = if other = place then some entry else disk.node? other := by
  unfold put at done
  split at done
  · split at done
    · rename_i within vacant
      obtain rfl := Except.ok.inj done
      refine ⟨vacant, rfl, rfl, fun other => ?_⟩
      have named := ne_nil_of_not_directory vacant
      by_cases root : other = []
      · subst root
        rw [node?_nil, node?_nil, if_neg named.symm]
      · simp only [node?, DiskEntry.find?, if_neg root, Index.find?_insert, eq_comm]
    · cases done
  · cases done

theorem remove_eq_ok (done : disk.remove place = .ok next) :
    next.working = disk.working ∧ next.contents = disk.contents ∧
      ∀ other, next.node? other = if other = place then none else disk.node? other := by
  unfold remove at done
  split at done
  · rename_i standing
    obtain rfl := Except.ok.inj done
    refine ⟨rfl, rfl, fun other => ?_⟩
    have named := ne_nil_of_not_directory standing
    by_cases root : other = []
    · subst root
      rw [node?_nil, node?_nil, if_neg named.symm]
    · simp only [node?, DiskEntry.find?, if_neg root, Index.find?_erase, eq_comm]
  · cases done

theorem content_fill (disk : Disk) (number other : Nat) (content : List UInt8) :
    (disk.fill number content).content other =
      if other = number then content else disk.content other := by
  rw [Disk.content, fill, Index.find?_insert]
  by_cases same : number = other
  · simp [same]
  · simp [same, Ne.symm same, Disk.content]

theorem content_of_contents (same : next.contents = disk.contents) (number : Nat) :
    next.content number = disk.content number := by
  rw [content, same, content]

/-- What is found at a place depends on what stands there and on the content of its file. -/
theorem held?_congr (same : next.node? place = disk.node? place)
    (contents : ∀ number, disk.node? place = some (.file number) →
      next.content number = disk.content number) :
    next.held? place = disk.held? place := by
  rw [held?, same, held?]
  cases present : disk.node? place with
  | none => rfl
  | some entry =>
    cases entry with
    | file number => simp [contents number present]
    | _ => rfl

/-! ## Paths -/

theorem reach_eq_ok_iff (disk : Disk) (path : FilePath) (place : Place) :
    disk.reach path = .ok place ↔
      ∃ left, walk disk.node? linkLimit (startFrom disk.working path) path.names =
        .ok (place, left) := by
  rw [reach, reachIn]
  cases walk disk.node? linkLimit (startFrom disk.working path) path.names with
  | error fault => simp [Except.map]
  | ok reached => simp [Except.map, Prod.ext_iff]

/-- A path leads to a directory, and along some names of it. -/
def LeadsInto (disk : Disk) (path : FilePath) (names : List (List Char)) (directory : Place)
    (left : Nat) : Prop :=
  walk disk.node? linkLimit (startFrom disk.working path) names = .ok (directory, left) ∧
    disk.node? directory = some .directory

theorem placeOf_eq_ok_iff (disk : Disk) (path : FilePath) (place : Place) :
    disk.placeOf path = .ok place ↔
      ∃ directory name left, path.names.getLast? = some name ∧ name ≠ FilePath.back ∧
        disk.LeadsInto path path.parent.names directory left ∧ place = directory ++ [name] := by
  have start : startFrom disk.working path.parent = startFrom disk.working path := rfl
  unfold placeOf LeadsInto
  cases reached : disk.reach path.parent with
  | error fault =>
    refine iff_of_false nofun ?_
    rintro ⟨directory, -, left, -, -, ⟨leads, -⟩, -⟩
    have found := (disk.reach_eq_ok_iff path.parent directory).mpr ⟨left, leads⟩
    rw [reached] at found
    cases found
  | ok directory =>
    obtain ⟨left, leads⟩ := (disk.reach_eq_ok_iff path.parent directory).mp reached
    rw [start] at leads
    have unique {other : Place} {further : Nat}
        (also : walk disk.node? linkLimit (startFrom disk.working path) path.parent.names =
          .ok (other, further)) : other = directory := by
      rw [leads] at also
      cases also
      rfl
    constructor
    · intro found
      simp only [bind, Except.bind] at found
      split at found
      · cases found
      · rename_i name here last
        split at found
        · cases found
        · rename_i forward
          exact ⟨directory, name, left, last, forward, ⟨leads, here⟩, (Except.ok.inj found).symm⟩
      · cases found
      · cases found
    · rintro ⟨other, name, further, last, forward, ⟨also, here⟩, rfl⟩
      obtain rfl := unique also
      simp [bind, Except.bind, here, last, forward, pure, Except.pure]

/-- What a path leads to on a disk that shows no less, and no more where it leads. -/
theorem seen?_congr (working : next.working = disk.working)
    (forth : Shows disk.node? next.node?) (back : Shows next.node? disk.node?)
    (held : ∀ place, disk.reach path = .ok place → next.held? place = disk.held? place) :
    next.seen? path = disk.seen? path := by
  unfold seen?
  cases reached : disk.reach path with
  | ok place =>
    obtain ⟨left, leads⟩ := (disk.reach_eq_ok_iff path place).mp reached
    have still : next.reach path = .ok place := by
      rw [reach_eq_ok_iff, working]
      exact ⟨left, walk_shows forth leads⟩
    rw [still]
    exact held place reached
  | error fault =>
    cases still : next.reach path with
    | error _ => rfl
    | ok place =>
      obtain ⟨left, leads⟩ := (next.reach_eq_ok_iff path place).mp still
      rw [working] at leads
      have found := (disk.reach_eq_ok_iff path place).mpr ⟨left, walk_shows back leads⟩
      rw [reached] at found
      cases found

/-! ## Operations -/

theorem makeOne_eq_ok (made : disk.makeOne path = .ok next) :
    ∃ place, disk.placeOf path = .ok place ∧ disk.node? place = none ∧
      next.working = disk.working ∧ next.contents = disk.contents ∧
      ∀ other, next.node? other =
        if other = place then some .directory else disk.node? other := by
  unfold makeOne at made
  obtain ⟨place, found, made⟩ := exists_of_bind made
  split at made
  · rename_i vacant
    obtain ⟨-, working, contents, entries⟩ := put_eq_ok made
    exact ⟨place, found, vacant, working, contents, entries⟩
  · cases made

theorem makeOne_of_vacant (found : disk.placeOf path = .ok place)
    (vacant : disk.node? place = none) : ∃ next, disk.makeOne path = .ok next := by
  obtain ⟨directory, name, left, -, -, ⟨-, here⟩, rfl⟩ := (disk.placeOf_eq_ok_iff path place).mp found
  rw [makeOne, found]
  simp only [bind, Except.bind, vacant, if_true, put, List.dropLast_concat, here]
  exact ⟨_, rfl⟩

/-- A directory that is created is new, or there is something already. -/
theorem makeDirectory_cases (made : disk.makeDirectory path = .ok next) :
    disk.makeOne path = .ok next ∨ next = disk ∧ disk.makeOne path = .error .alreadyExists := by
  unfold makeDirectory at made
  split at made
  · rename_i present
    split at made
    · exact .inr ⟨(Except.ok.inj made).symm, present⟩
    · cases made
  · exact .inl made

theorem rewrite_eq_ok {change : List UInt8 → List UInt8}
    (done : disk.rewrite path change = .ok next) :
    ∃ place number, disk.reach path = .ok place ∧ disk.node? place = some (.file number) ∧
      next = disk.fill number (change (disk.content number)) := by
  unfold rewrite at done
  obtain ⟨place, reached, done⟩ := exists_of_bind done
  split at done
  · rename_i number present
    exact ⟨place, number, reached, present, (Except.ok.inj done).symm⟩
  · cases done
  · cases done

end Disk

end LeaseRoster
