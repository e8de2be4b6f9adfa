import LeaseRoster.Roster.Disk
import Mathlib.Data.List.Infix

/-!
# Ways on a disk

A way goes on the same where a disk shows the same links and has at least the same directories.
So neither the file beside a target nor new directories lead a path elsewhere that led to
something.  A way of several names is walked name by name, with what is left of the links that may
be followed.
-/

namespace LeaseRoster

/-- What comes of two operations in turn comes of the second one on what comes of the first. -/
theorem exists_of_bind {α β : Type} {first : Except Fault α} {next : α → Except Fault β} {last : β}
    (done : first >>= next = .ok last) : ∃ middle, first = .ok middle ∧ next middle = .ok last := by
  cases first with
  | error fault => cases done
  | ok middle => exact ⟨middle, rfl, done⟩

namespace Disk

section Look

variable {look next : Place → Option DiskEntry} {place : Place} {name : List Char}
  {names rest more : List (List Char)} {left : Nat} {reached : Place × Nat}

/-- A disk with the same links and at least the same directories. -/
structure Shows (look next : Place → Option DiskEntry) : Prop where
  links : ∀ place target, look place = some (.link target) ↔ next place = some (.link target)
  directories : ∀ place, look place = some .directory → next place = some .directory

/-- How a way goes on from a place with its first name. -/
inductive Goes (look : Place → Option DiskEntry) (place : Place) (name : List Char) : Prop
  | blocked (here : look place ≠ some .directory)
  | back (here : look place = some .directory) (backwards : name = FilePath.back)
  | link (here : look place = some .directory) (forward : name ≠ FilePath.back)
      (target : FilePath) (link : look (place ++ [name]) = some (.link target))
  | down (here : look place = some .directory) (forward : name ≠ FilePath.back)
      (plain : ∀ target, look (place ++ [name]) ≠ some (.link target))

theorem goes (look : Place → Option DiskEntry) (place : Place) (name : List Char) :
    Goes look place name := by
  by_cases here : look place = some .directory
  · by_cases backwards : name = FilePath.back
    · exact .back here backwards
    · by_cases link : ∃ target, look (place ++ [name]) = some (.link target)
      · obtain ⟨target, link⟩ := link
        exact .link here backwards target link
      · exact .down here backwards (not_exists.mp link)
  · exact .blocked here

section With

variable {follow other : Place → List (List Char) → Except Fault (Place × Nat)}

theorem walkWith_blocked (here : look place ≠ some .directory) :
    ∃ fault, walkWith look left follow place (name :: rest) = .error fault := by
  unfold walkWith
  split
  · exact ⟨_, rfl⟩
  · rename_i directory
    exact absurd directory here
  · exact ⟨_, rfl⟩

theorem walkWith_back (here : look place = some .directory) :
    walkWith look left follow place (FilePath.back :: rest) =
      walkWith look left follow place.dropLast rest := by
  rw [walkWith, here]
  exact if_pos rfl

theorem walkWith_link (here : look place = some .directory) (forward : name ≠ FilePath.back)
    {target : FilePath} (link : look (place ++ [name]) = some (.link target)) :
    walkWith look left follow place (name :: rest) =
      follow (startFrom place target) (target.names ++ rest) := by
  rw [walkWith, here]
  dsimp only
  rw [if_neg forward, link]

theorem walkWith_down (here : look place = some .directory) (forward : name ≠ FilePath.back)
    (plain : ∀ target, look (place ++ [name]) ≠ some (.link target)) :
    walkWith look left follow place (name :: rest) =
      walkWith look left follow (place ++ [name]) rest := by
  rw [walkWith, here]
  dsimp only
  rw [if_neg forward]
  split
  · rename_i target link
    exact absurd link (plain target)
  · rfl

theorem walkWith_shows (shows : Shows look next)
    (follows : ∀ place names reached,
      follow place names = .ok reached → other place names = .ok reached)
    (walked : walkWith look left follow place names = .ok reached) :
    walkWith next left other place names = .ok reached := by
  induction names generalizing place with
  | nil => exact walked
  | cons name rest ih =>
    cases goes look place name with
    | blocked here =>
      obtain ⟨fault, stops⟩ := walkWith_blocked here
      rw [stops] at walked
      cases walked
    | back here backwards =>
      subst backwards
      rw [walkWith_back here] at walked
      rw [walkWith_back (shows.directories place here)]
      exact ih walked
    | link here forward target link =>
      rw [walkWith_link here forward link] at walked
      rw [walkWith_link (shows.directories place here) forward ((shows.links _ _).mp link)]
      exact follows _ _ _ walked
    | down here forward plain =>
      have still (target : FilePath) : next (place ++ [name]) ≠ some (.link target) :=
        fun link => plain target ((shows.links _ _).mpr link)
      rw [walkWith_down here forward plain] at walked
      rw [walkWith_down (shows.directories place here) forward still]
      exact ih walked

/-- A way of several names is walked in two parts, if every way of a link is. -/
theorem walkWith_append (parts : ∀ place names, follow place (names ++ more) =
      follow place names >>= fun middle => walk look middle.2 middle.1 more)
    (same : walk look left = walkWith look left follow) :
    walkWith look left follow place (names ++ more) =
      walkWith look left follow place names >>= fun middle => walk look middle.2 middle.1 more := by
  induction names generalizing place with
  | nil =>
    change walkWith look left follow place more = walk look left place more
    rw [same]
  | cons name rest ih =>
    rw [List.cons_append]
    cases goes look place name with
    | blocked here =>
      unfold walkWith
      split
      · rfl
      · rename_i directory
        exact absurd directory here
      · rfl
    | back here backwards =>
      subst backwards
      rw [walkWith_back here, walkWith_back here]
      exact ih
    | link here forward target link =>
      rw [walkWith_link here forward link, walkWith_link here forward link, ← List.append_assoc]
      exact parts _ _
    | down here forward plain =>
      rw [walkWith_down here forward plain, walkWith_down here forward plain]
      exact ih

end With

/-- What a way leads to it leads to on every disk that shows as much. -/
theorem walk_shows (shows : Shows look next) (walked : walk look left place names = .ok reached) :
    walk next left place names = .ok reached := by
  induction left generalizing place names reached with
  | zero => exact walkWith_shows shows (fun _ _ _ stops => by cases stops) walked
  | succ left ih => exact walkWith_shows shows (fun _ _ _ => ih) walked

theorem walk_append (look : Place → Option DiskEntry) (left : Nat) (place : Place)
    (names more : List (List Char)) :
    walk look left place (names ++ more) =
      walk look left place names >>= fun middle => walk look middle.2 middle.1 more := by
  induction left generalizing place names with
  | zero => exact walkWith_append (fun _ _ => rfl) rfl
  | succ left ih => exact walkWith_append ih rfl

theorem walk_append_of_ok (walked : walk look left place names = .ok reached) :
    walk look left place (names ++ more) = walk look reached.2 reached.1 more := by
  rw [walk_append, walked]
  rfl

theorem walk_append_inv (walked : walk look left place (names ++ more) = .ok reached) :
    ∃ middle, walk look left place names = .ok middle ∧
      walk look middle.2 middle.1 more = .ok reached := by
  rw [walk_append] at walked
  exact exists_of_bind walked

theorem walk_down (here : look place = some .directory) (forward : name ≠ FilePath.back)
    (plain : ∀ target, look (place ++ [name]) ≠ some (.link target)) :
    walk look left place (name :: rest) = walk look left (place ++ [name]) rest := by
  cases left <;> exact walkWith_down here forward plain

theorem walk_nil (look : Place → Option DiskEntry) (left : Nat) (place : Place) :
    walk look left place [] = .ok (place, left) := by
  cases left <;> rfl

theorem walk_blocked (here : look place ≠ some .directory) :
    ∃ fault, walk look left place (name :: rest) = .error fault := by
  cases left <;> exact walkWith_blocked here

theorem directory_of_walk_cons (walked : walk look left place (name :: rest) = .ok reached) :
    look place = some .directory := by
  by_contra here
  obtain ⟨fault, stops⟩ : ∃ fault, walk look left place (name :: rest) = .error fault :=
    walk_blocked here
  rw [stops] at walked
  cases walked

/-- Names that lead down from directory to directory lead to the place that they spell. -/
theorem walk_down_all (forward : FilePath.back ∉ names)
    (here : ∀ made, made <+: names → look (place ++ made) = some .directory) :
    walk look left place names = .ok (place ++ names, left) := by
  induction names generalizing place with
  | nil => rw [walk_nil, List.append_nil]
  | cons name rest ih =>
    have first : look (place ++ [name]) = some .directory :=
      here [name] (List.prefix_append [name] rest)
    have start : look place = some .directory := by
      simpa using here [] List.nil_prefix
    have onwards : ∀ made, made <+: rest → look (place ++ [name] ++ made) = some .directory := by
      intro made before
      rw [List.append_assoc]
      exact here (name :: made) (List.cons_prefix_cons.mpr ⟨rfl, before⟩)
    rw [walk_down start (List.ne_of_not_mem_cons forward).symm (by simp [first]),
      ih (List.not_mem_of_not_mem_cons forward) onwards, List.append_assoc]
    rfl

/-- A way that comes by a place where nothing stands ends there or nowhere. -/
theorem walk_vacant (here : look place = some .directory) (forward : name ≠ FilePath.back)
    (vacant : look (place ++ [name]) = none) :
    walk look left place (name :: rest) = .ok (place ++ [name], left) ∧ rest = [] ∨
      ∃ fault, walk look left place (name :: rest) = .error fault := by
  rw [walk_down here forward (by simp [vacant])]
  cases rest with
  | nil => exact .inl ⟨walk_nil look left _, rfl⟩
  | cons next others =>
    right
    exact walk_blocked (by simp [vacant])

end Look

end Disk

end LeaseRoster
