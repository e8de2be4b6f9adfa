/-!
# Indexes

An index gives at most one value for a key and lists its entries in the order in
which the keys were first inserted.  Inserting under a present key replaces the
value in its place.
-/

namespace LeaseRoster

/-- Values by key, in the order of first insertion. -/
structure Index (κ : Type) (ν : Type) where
  entries : List (κ × ν)

namespace Index

variable {κ ν : Type} [DecidableEq κ]

def empty : Index κ ν := ⟨[]⟩

def findIn (key : κ) : List (κ × ν) → Option ν
  | [] => none
  | entry :: rest => if entry.1 = key then some entry.2 else findIn key rest

/-- Entries with the value under a key replaced, or added at the end. -/
def insertIn (key : κ) (value : ν) : List (κ × ν) → List (κ × ν)
  | [] => [(key, value)]
  | entry :: rest =>
    if entry.1 = key then (key, value) :: rest else entry :: insertIn key value rest

def find? (index : Index κ ν) (key : κ) : Option ν := findIn key index.entries

def insert (index : Index κ ν) (key : κ) (value : ν) : Index κ ν :=
  ⟨insertIn key value index.entries⟩

def erase (index : Index κ ν) (key : κ) : Index κ ν :=
  ⟨index.entries.filter fun entry => entry.1 ≠ key⟩

def size (index : Index κ ν) : Nat := index.entries.length

/-- The values in the order of the first insertion of their keys. -/
def values (index : Index κ ν) : List ν := index.entries.map Prod.snd

@[simp] theorem find?_empty (key : κ) : (empty : Index κ ν).find? key = none := rfl

theorem findIn_insertIn (key other : κ) (value : ν) (entries : List (κ × ν)) :
    findIn other (insertIn key value entries) =
      if key = other then some value else findIn other entries := by
  induction entries with
  | nil => simp [insertIn, findIn]
  | cons entry rest ih =>
    unfold insertIn
    by_cases same : entry.1 = key
    · rw [if_pos same]
      by_cases wanted : key = other
      · simp [findIn, wanted]
      · simp [findIn, wanted, same]
    · rw [if_neg same]
      unfold findIn
      rw [ih]
      by_cases wanted : key = other
      · have different : ¬ entry.1 = other := fun equal => same (equal.trans wanted.symm)
        simp [wanted, different]
      · simp [wanted]

/-- An insertion sets the value of its key and of no other. -/
theorem find?_insert (index : Index κ ν) (key other : κ) (value : ν) :
    (index.insert key value).find? other =
      if key = other then some value else index.find? other :=
  findIn_insertIn key other value index.entries

theorem mem_insertIn {key : κ} {value : ν} {entries : List (κ × ν)} {entry : κ × ν}
    (member : entry ∈ insertIn key value entries) : entry = (key, value) ∨ entry ∈ entries := by
  induction entries with
  | nil => exact .inl (List.mem_singleton.mp member)
  | cons first rest ih =>
    unfold insertIn at member
    split at member
    · exact (List.mem_cons.mp member).imp_right (List.mem_cons_of_mem first)
    · rcases List.mem_cons.mp member with rfl | further
      · exact .inr List.mem_cons_self
      · exact (ih further).imp_right (List.mem_cons_of_mem first)

theorem mem_of_findIn {key : κ} {value : ν} {entries : List (κ × ν)}
    (found : findIn key entries = some value) : (key, value) ∈ entries := by
  induction entries with
  | nil => cases found
  | cons first rest ih =>
    unfold findIn at found
    split at found
    · rename_i same
      cases found
      subst same
      exact List.mem_cons_self
    · exact List.mem_cons_of_mem first (ih found)

theorem findIn_filter (key other : κ) (entries : List (κ × ν)) :
    findIn other (entries.filter fun entry => entry.1 ≠ key) =
      if key = other then none else findIn other entries := by
  induction entries with
  | nil => simp [findIn]
  | cons entry rest ih =>
    rw [List.filter_cons]
    by_cases same : entry.1 = key
    · rw [if_neg (by simp [same]), ih]
      by_cases wanted : key = other
      · simp [wanted]
      · simp [findIn, wanted, same]
    · rw [if_pos (by simp [same])]
      unfold findIn
      rw [ih]
      by_cases wanted : key = other
      · have different : ¬ entry.1 = other := fun equal => same (equal.trans wanted.symm)
        simp [wanted, different]
      · simp [wanted]

/-- An erasure removes its key and no other. -/
theorem find?_erase (index : Index κ ν) (key other : κ) :
    (index.erase key).find? other =
      if key = other then none else index.find? other :=
  findIn_filter key other index.entries

end Index

end LeaseRoster
