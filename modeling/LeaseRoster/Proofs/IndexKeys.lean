import LeaseRoster.Index
import Mathlib.Data.List.Nodup
import Mathlib.Data.List.Perm.Basic

/-!
# The keys of an index

An index that is made by insertions and erasures has every key once.  Then what it finds
under a key is what it lists under it, and its values can be counted through its keys.
-/

namespace LeaseRoster

namespace Index

variable {κ ν : Type} [DecidableEq κ]

omit [DecidableEq κ] in
/-- The keys in the order of first insertion. -/
def keys (index : Index κ ν) : List κ := index.entries.map Prod.fst

omit [DecidableEq κ] in
@[simp] theorem keys_empty : (empty : Index κ ν).keys = [] := rfl

theorem findIn_eq_none_iff (key : κ) (entries : List (κ × ν)) :
    findIn key entries = none ↔ key ∉ entries.map Prod.fst := by
  induction entries with
  | nil => simp [findIn]
  | cons entry rest ih =>
    by_cases same : entry.1 = key
    · simp [findIn, same]
    · simp only [findIn, if_neg same, ih, List.map_cons, List.mem_cons, not_or]
      exact ⟨fun absent => ⟨Ne.symm same, absent⟩, And.right⟩

theorem find?_eq_none_iff (index : Index κ ν) (key : κ) :
    index.find? key = none ↔ key ∉ index.keys :=
  findIn_eq_none_iff key index.entries

theorem findIn_eq_some_iff {entries : List (κ × ν)} (distinct : (entries.map Prod.fst).Nodup)
    (key : κ) (value : ν) :
    findIn key entries = some value ↔ (key, value) ∈ entries := by
  induction entries with
  | nil => simp [findIn]
  | cons entry rest ih =>
    obtain ⟨first, held⟩ := entry
    obtain ⟨absent, distinct⟩ := List.nodup_cons.mp distinct
    by_cases same : first = key
    · subst same
      have other : (first, value) ∉ rest := fun member =>
        absent (List.mem_map.mpr ⟨(first, value), member, rfl⟩)
      simp [findIn, other, eq_comm]
    · have different : (key, value) ≠ (first, held) := by
        intro equal
        exact same (Prod.mk.inj equal).1.symm
      simp [findIn, same, ih distinct, different]

theorem find?_eq_some_iff {index : Index κ ν} (distinct : index.keys.Nodup)
    (key : κ) (value : ν) :
    index.find? key = some value ↔ (key, value) ∈ index.entries :=
  findIn_eq_some_iff distinct key value

/-- Indexes that find the same under every key have the same entries, in some order. -/
theorem perm_entries {index other : Index κ ν} (distinct : index.keys.Nodup)
    (unique : other.keys.Nodup) (same : ∀ key, index.find? key = other.find? key) :
    index.entries.Perm other.entries := by
  rw [List.perm_ext_iff_of_nodup (List.Nodup.of_map _ distinct) (List.Nodup.of_map _ unique)]
  rintro ⟨key, value⟩
  rw [← find?_eq_some_iff distinct, same, find?_eq_some_iff unique]

theorem map_fst_insertIn (key : κ) (value : ν) (entries : List (κ × ν)) :
    (insertIn key value entries).map Prod.fst =
      if key ∈ entries.map Prod.fst then entries.map Prod.fst
      else entries.map Prod.fst ++ [key] := by
  induction entries with
  | nil => simp [insertIn]
  | cons entry rest ih =>
    by_cases same : entry.1 = key
    · simp [insertIn, same]
    · rw [insertIn, if_neg same, List.map_cons, ih]
      have different : key ≠ entry.1 := Ne.symm same
      by_cases present : key ∈ rest.map Prod.fst
      · simp [present, different]
      · simp only [List.map_cons, List.mem_cons, different, present, or_self, if_false,
          List.cons_append]

/-- An insertion under a present key keeps the order; another one adds its key at the
end. -/
theorem keys_insert (index : Index κ ν) (key : κ) (value : ν) :
    (index.insert key value).keys =
      if key ∈ index.keys then index.keys else index.keys ++ [key] :=
  map_fst_insertIn key value index.entries

theorem keys_erase (index : Index κ ν) (key : κ) :
    (index.erase key).keys = index.keys.filter fun other => other ≠ key := by
  simp [keys, erase, List.filter_map, Function.comp_def]

theorem mem_keys_insert_iff (index : Index κ ν) (key other : κ) (value : ν) :
    other ∈ (index.insert key value).keys ↔ other ∈ index.keys ∨ other = key := by
  rw [keys_insert]
  split
  · rename_i present
    exact ⟨Or.inl, fun either => either.elim id fun own => own ▸ present⟩
  · simp

theorem nodup_keys_insert {index : Index κ ν} (distinct : index.keys.Nodup)
    (key : κ) (value : ν) : (index.insert key value).keys.Nodup := by
  rw [keys_insert]
  split
  · exact distinct
  · rename_i absent
    exact List.nodup_append.mpr ⟨distinct, List.nodup_singleton key, by
      intro other member last lastMember equal
      rw [List.mem_singleton] at lastMember
      exact absent (lastMember ▸ equal ▸ member)⟩

theorem nodup_keys_erase {index : Index κ ν} (distinct : index.keys.Nodup) (key : κ) :
    (index.erase key).keys.Nodup := by
  rw [keys_erase]
  exact distinct.filter _

/-- The values of an index whose keys are read off its values are found one by one. -/
theorem mem_values_iff {index : Index κ ν} (distinct : index.keys.Nodup) {keyOf : ν → κ}
    (keyed : ∀ key value, index.find? key = some value → keyOf value = key) (value : ν) :
    value ∈ index.values ↔ index.find? (keyOf value) = some value := by
  simp only [values, List.mem_map, Prod.exists, exists_eq_right]
  constructor
  · rintro ⟨key, member⟩
    have found := (find?_eq_some_iff distinct key value).mpr member
    rw [keyed key value found]
    exact found
  · intro found
    exact ⟨keyOf value, (find?_eq_some_iff distinct _ _).mp found⟩

/-- Reading the keys off the values gives the keys. -/
theorem map_values {index : Index κ ν} (distinct : index.keys.Nodup) {keyOf : ν → κ}
    (keyed : ∀ key value, index.find? key = some value → keyOf value = key) :
    index.values.map keyOf = index.keys := by
  rw [values, keys, List.map_map]
  refine List.map_congr_left fun entry member => ?_
  exact keyed entry.1 entry.2 ((find?_eq_some_iff distinct _ _).mpr member)

end Index

end LeaseRoster
