import LeaseRoster.Text.Casing
import Mathlib.Data.List.Basic

/-!
# Lower-case forms of texts

No letter is lowered to a character in front of the small letters, and what becomes one of the
letters up to `f` is such a letter itself or its capital.  So lower-casing adds no marks and no
digits to a text, and a text whose lower-case form ends with the letters at `f` has been lowered
letter by letter.  The capital sigma alone is lowered by its place, so that texts without it have
one lower-case form if their letters have.
-/

namespace LeaseRoster

namespace Text

theorem toNat_ofNat {code : Nat} (valid : code.isValidChar) : (Char.ofNat code).toNat = code := by
  rw [Char.ofNat, dif_pos valid]
  rfl

/-! ## Letters -/

/-- The lower-case forms are characters behind the capitals, and those up to `f` do not stand in
front of their letters. -/
theorem bounds_of_mem_lowerRuns : ∀ run ∈ lowerRuns,
    0x61 ≤ run.first + run.shift ∧
      (run.last + run.shift < 0xd800 ∨
        0xdfff < run.first + run.shift ∧ run.last + run.shift < 0x110000) ∧
      (0 ≤ run.shift ∨ 0x66 < run.first + run.shift) := by
  decide +kernel

theorem dotted_not_mem_lowerRuns : ∀ run ∈ lowerRuns,
    run.last + run.shift < 0x130 ∨ 0x130 < run.first + run.shift := by
  decide +kernel

theorem lowerChar_cases (character : Char) :
    lowerChar character = character ∨
      0x61 ≤ (lowerChar character).toNat ∧
        (character.toNat ≤ (lowerChar character).toNat ∨ 0x66 < (lowerChar character).toNat) := by
  unfold lowerChar
  split
  next run found =>
    right
    have inRun := List.find?_some found
    simp only [CaseRun.contains, Bool.and_eq_true, decide_eq_true_eq] at inRun
    obtain ⟨behind, valid, forward⟩ := bounds_of_mem_lowerRuns run (List.mem_of_find?_eq_some found)
    rw [toNat_ofNat (by unfold Nat.isValidChar; omega)]
    omega
  next => exact .inl rfl

theorem lowerChar_eq_self {character : Char} (early : (lowerChar character).toNat < 0x61) :
    lowerChar character = character := by
  rcases lowerChar_cases character with same | ⟨behind, -⟩
  · exact same
  · omega

theorem toNat_le_of_lowerChar {character : Char} (early : (lowerChar character).toNat ≤ 0x66) :
    character.toNat ≤ 0x66 := by
  rcases lowerChar_cases character with same | ⟨-, forward⟩
  · rwa [same] at early
  · omega

/-! ## Marks -/

theorem eq_of_mem_lowerWithin {before after : List Char} {mark character : Char}
    (early : mark.toNat < 0x61) (member : mark ∈ lowerWithin before character after) :
    character = mark := by
  have late (letter : Char) (behind : ¬ letter.toNat < 0x61) (found : mark = letter) : False :=
    behind (found ▸ early)
  unfold lowerWithin at member
  split at member
  · split at member
    · exact (late _ (by decide) (List.mem_singleton.mp member)).elim
    · exact (late _ (by decide) (List.mem_singleton.mp member)).elim
  · split at member
    · rcases List.mem_cons.mp member with found | found
      · exact (late _ (by decide) found).elim
      · exact (late _ (by decide) (List.mem_singleton.mp found)).elim
    · obtain rfl := List.mem_singleton.mp member
      exact (lowerChar_eq_self early).symm

/-- Lower-casing makes no characters in front of the small letters. -/
theorem mem_of_mem_lower {text : List Char} {mark : Char} (early : mark.toNat < 0x61)
    (member : mark ∈ lower text) : mark ∈ text := by
  have behind : ∀ before : List Char, mark ∈ lowerAfter before text → mark ∈ text := by
    clear member
    induction text with
    | nil => exact fun _ made => made
    | cons character rest ih =>
      intro before made
      rcases List.mem_append.mp made with here | later
      · rw [eq_of_mem_lowerWithin early here]
        exact List.mem_cons_self
      · exact List.mem_cons_of_mem _ (ih _ later)
  exact behind [] member

/-! ## Texts letter by letter -/

/-- The lower-case form of a letter that does not depend on its place, as all do but the capital
sigma. -/
def lowerAlone (character : Char) : List Char :=
  if character.toNat == 0x130 then ['i', Char.ofNat 0x307] else [lowerChar character]

/-- A text without capital sigmas is lowered letter by letter. -/
theorem lowerAfter_eq_flatMap {text : List Char}
    (free : ∀ character ∈ text, character.toNat ≠ 0x3a3) (before : List Char) :
    lowerAfter before text = text.flatMap lowerAlone := by
  induction text generalizing before with
  | nil => rfl
  | cons character rest ih =>
    obtain ⟨other, others⟩ := List.forall_mem_cons.mp free
    rw [lowerAfter, ih others, lowerWithin, if_neg (by simpa using other), List.flatMap_cons]
    rfl

/-- No letter but the dotted capital has the lower-case form that it has on its own. -/
theorem toNat_eq_dotted_iff (character : Char) :
    (lowerChar character).toNat = 0x130 ↔ character.toNat = 0x130 := by
  constructor
  · intro dotted
    unfold lowerChar at dotted
    split at dotted
    next run found =>
      have inRun := List.find?_some found
      simp only [CaseRun.contains, Bool.and_eq_true, decide_eq_true_eq] at inRun
      have member := List.mem_of_find?_eq_some found
      obtain ⟨behind, valid, -⟩ := bounds_of_mem_lowerRuns run member
      have apart := dotted_not_mem_lowerRuns run member
      rw [toNat_ofNat (by unfold Nat.isValidChar; omega)] at dotted
      omega
    next => exact dotted
  · intro dotted
    have itself : character = Char.ofNat 0x130 := by
      rw [← dotted, Char.ofNat_toNat]
    rw [itself]
    decide +kernel

/-- Texts without capital sigmas that agree letter by letter, each letter lowered on its own, have
one lower-case form. -/
theorem lower_congr {first second : List Char}
    (firstFree : ∀ character ∈ first, character.toNat ≠ 0x3a3)
    (secondFree : ∀ character ∈ second, character.toNat ≠ 0x3a3)
    (same : first.map lowerChar = second.map lowerChar) : lower first = lower second := by
  rw [lower, lower, lowerAfter_eq_flatMap firstFree, lowerAfter_eq_flatMap secondFree]
  clear firstFree secondFree
  induction first generalizing second with
  | nil => rw [List.map_eq_nil_iff.mp same.symm]
  | cons character rest ih =>
    cases second with
    | nil => cases same
    | cons other others =>
      obtain ⟨alike, behind⟩ := List.cons.inj same
      have dotted : character.toNat = 0x130 ↔ other.toNat = 0x130 := by
        rw [← toNat_eq_dotted_iff, alike, toNat_eq_dotted_iff]
      have here : lowerAlone character = lowerAlone other := by
        unfold lowerAlone
        simp only [beq_iff_eq, dotted, alike]
      rw [List.flatMap_cons, List.flatMap_cons, here, ih behind]

/-- A text without the two letters that are not lowered to one is lowered letter by letter to as
many. -/
theorem lowerAfter_eq_map {text : List Char}
    (plain : ∀ character ∈ text, character.toNat ≠ 0x3a3 ∧ character.toNat ≠ 0x130)
    (before : List Char) : lowerAfter before text = text.map lowerChar := by
  rw [lowerAfter_eq_flatMap (fun character member => (plain character member).1),
    List.map_eq_flatMap]
  refine List.flatMap_congr fun character member => ?_
  rw [lowerAlone, if_neg (by simpa using (plain character member).2)]

/-- Those two letters leave one behind `f`. -/
theorem plain_of_lowerAfter {before text : List Char}
    (early : ∀ character ∈ lowerAfter before text, character.toNat ≤ 0x66) :
    ∀ character ∈ text, character.toNat ≠ 0x3a3 ∧ character.toNat ≠ 0x130 := by
  induction text generalizing before with
  | nil => exact List.forall_mem_nil _
  | cons character rest ih =>
    rw [lowerAfter, List.forall_mem_append] at early
    refine List.forall_mem_cons.mpr ⟨⟨fun sigma => ?_, fun dotted => ?_⟩, ih early.2⟩
    · have last := early.1
      rw [lowerWithin, if_pos (by simpa using sigma)] at last
      split at last <;> exact absurd (last _ (List.mem_singleton.mpr rfl)) (by decide)
    · have first := early.1
      rw [lowerWithin, if_neg (by simp [dotted]), if_pos (by simpa using dotted)] at first
      exact absurd (first 'i' List.mem_cons_self) (by decide)

/-- A text without letters behind `f` is a lower-case form if it is one letter by letter. -/
theorem lower_eq_iff_of_early {text written : List Char}
    (early : ∀ character ∈ written, character.toNat ≤ 0x66) :
    lower text = written ↔ text.map lowerChar = written := by
  constructor
  · rintro rfl
    exact (lowerAfter_eq_map (plain_of_lowerAfter early) []).symm
  · rintro rfl
    refine lowerAfter_eq_map (fun character member => ?_) []
    have small := toNat_le_of_lowerChar (early _ (List.mem_map_of_mem member))
    omega

end Text

end LeaseRoster
