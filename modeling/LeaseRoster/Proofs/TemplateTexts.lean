import LeaseRoster.Reservation
import Mathlib.Data.List.TakeWhile

/-!
# Texts of templates

The parts that are read off a template are those that its text spells: characters, doubled
dollar signs, and names, which go on as long as they can or stand in braces.  A template is
valid if its text spells some parts.  What it renders to is then the text of these parts, with
the value of each placeholder in its place, unless one of them has no value.
-/

namespace LeaseRoster

namespace Template

/-- A text can be the name of a placeholder. -/
def IsName : List Char → Prop
  | [] => False
  | first :: rest => isNameStart first = true ∧ ∀ character ∈ rest, isNamePart character = true

/-- A text goes on, or ends, in such a way that a name in front of it is over. -/
def EndsName (rest : List Char) : Prop :=
  ∀ character ∈ rest.head?, isNamePart character = false

/-- The text behind a dollar sign spells a part, and some text is left. -/
inductive SpellsSign : Part → List Char → List Char → Prop
  | doubled {rest : List Char} : SpellsSign (.literal '$') ('$' :: rest) rest
  | named {name rest : List Char} (isName : IsName name) (ends : EndsName rest) :
      SpellsSign (.placeholder name) (name ++ rest) rest
  | braced {name rest : List Char} (isName : IsName name) :
      SpellsSign (.placeholder name) ('\x7b' :: (name ++ '\x7d' :: rest)) rest

/-- A text spells some parts. -/
inductive Spells : List Part → List Char → Prop
  | done : Spells [] []
  | literal {character : Char} {parts : List Part} {rest : List Char}
      (plain : character ≠ '$') (spelled : Spells parts rest) :
      Spells (.literal character :: parts) (character :: rest)
  | sign {part : Part} {parts : List Part} {behind rest : List Char}
      (sign : SpellsSign part behind rest) (spelled : Spells parts rest) :
      Spells (part :: parts) ('$' :: behind)

/-! ## Names -/

theorem IsName.ne_nil {name : List Char} (isName : IsName name) : name ≠ [] := by
  rintro rfl
  exact isName

theorem leadingName_append {name rest : List Char} (isName : IsName name)
    (ends : EndsName rest) : leadingName (name ++ rest) = name := by
  cases name with
  | nil => exact isName.elim
  | cons first others =>
    obtain ⟨start, parts⟩ := isName
    have stops : rest.takeWhile isNamePart = [] := by
      cases rest with
      | nil => rfl
      | cons next behind => simp [ends next (by simp)]
    rw [List.cons_append, leadingName, if_pos start, List.takeWhile_append_of_pos parts, stops,
      List.append_nil]

theorem endsName_dropWhile (text : List Char) : EndsName (text.dropWhile isNamePart) := by
  intro character member
  have stopped := List.head?_dropWhile_not isNamePart text
  rw [Option.mem_def.mp member] at stopped
  exact stopped

/-- A name at the front of a text is one, and it is over behind it. -/
theorem leadingName_sound {text : List Char} (found : leadingName text ≠ []) :
    IsName (leadingName text) ∧ EndsName (text.drop (leadingName text).length) ∧
      leadingName text ++ text.drop (leadingName text).length = text := by
  cases text with
  | nil => exact absurd rfl found
  | cons first rest =>
    by_cases start : isNameStart first = true
    · have name : leadingName (first :: rest) = first :: rest.takeWhile isNamePart := if_pos start
      have behind : rest.drop (rest.takeWhile isNamePart).length = rest.dropWhile isNamePart :=
        calc
          rest.drop (rest.takeWhile isNamePart).length
              = (rest.takeWhile isNamePart ++ rest.dropWhile isNamePart).drop
                  (rest.takeWhile isNamePart).length := by rw [List.takeWhile_append_dropWhile]
          _ = rest.dropWhile isNamePart := List.drop_left
      rw [name, List.length_cons, List.drop_succ_cons, behind]
      refine ⟨⟨start, fun character => List.mem_takeWhile_imp⟩, endsName_dropWhile rest, ?_⟩
      rw [List.cons_append, List.takeWhile_append_dropWhile]
    · exact absurd (if_neg start) found

/-! ## Dollar signs -/

theorem endsName_brace (rest : List Char) : EndsName ('\x7d' :: rest) := by
  intro character member
  obtain rfl : '\x7d' = character := by simpa using member
  decide

theorem IsName.front {name : List Char} (isName : IsName name) (rest : List Char) :
    ∃ first others, name ++ rest = first :: others ∧ first ≠ '$' ∧ first ≠ '\x7b' := by
  cases name with
  | nil => exact isName.elim
  | cons first others =>
    refine ⟨first, others ++ rest, rfl, ?_, ?_⟩
    all_goals
      rintro rfl
      exact absurd isName.1 (by decide)

/-- What a text spells behind a dollar sign is what is made of it. -/
theorem partBehind_of_spellsSign {part : Part} {text rest : List Char}
    (sign : SpellsSign part text rest) :
    (partBehind text).1 = part ∧ text.drop (partBehind text).2 = rest := by
  cases sign with
  | doubled => exact ⟨rfl, rfl⟩
  | @named name rest isName ends =>
    obtain ⟨first, others, opened, notDollar, notBrace⟩ := isName.front rest
    have read : partBehind (name ++ rest) = (.placeholder name, name.length) := by
      rw [opened, partBehind]
      · rw [← opened, leadingName_append isName ends]
        simp [isName.ne_nil]
      · simpa using notDollar
      · simpa using notBrace
    rw [read]
    exact ⟨rfl, List.drop_left⟩
  | @braced name rest isName =>
    have read : partBehind ('\x7b' :: (name ++ '\x7d' :: rest)) =
        (.placeholder name, name.length + 2) := by
      rw [partBehind, leadingName_append isName (endsName_brace rest)]
      simp [isName.ne_nil]
    rw [read]
    simp

theorem partBehind_cases (text : List Char) :
    (partBehind text).1 = .stray ∨
      SpellsSign (partBehind text).1 text (text.drop (partBehind text).2) := by
  fun_cases partBehind text with
  | case1 rest => exact Or.inr .doubled
  | case2 inner name closed => exact Or.inl rfl
  | case3 inner name closed =>
    simp only [Bool.or_eq_true, bne_iff_ne, not_or, not_not, List.isEmpty_iff] at closed
    obtain ⟨isName, -, whole⟩ := leadingName_sound closed.1
    obtain ⟨rest, behind⟩ := List.head?_eq_some_iff.mp closed.2
    have split : inner = name ++ '\x7d' :: rest := by rw [← behind, whole]
    have dropped : ('\x7b' :: inner).drop (name.length + 2) = rest := by
      rw [List.drop_succ_cons, split]
      simp
    refine Or.inr ?_
    dsimp only
    rw [dropped, split]
    exact .braced isName
  | case4 => exact Or.inl rfl
  | case5 notDollar notBrace found name filled =>
    obtain ⟨isName, ends, whole⟩ := leadingName_sound (by simpa using filled)
    have sign := SpellsSign.named isName ends
    rw [whole] at sign
    exact Or.inr sign

/-! ## Whole templates -/

theorem partsFrom_eq (taken : Nat) (text : List Char) :
    partsFrom taken text = parts (text.drop taken) := by
  induction text generalizing taken with
  | nil => cases taken <;> rfl
  | cons first rest ih =>
    cases taken with
    | zero => rfl
    | succ taken => exact ih taken

theorem parts_sign (text : List Char) :
    parts ('$' :: text) = (partBehind text).1 :: parts (text.drop (partBehind text).2) := by
  rw [parts, partsFrom, if_pos (by decide), partsFrom_eq]

theorem parts_plain {character : Char} (plain : character ≠ '$') (rest : List Char) :
    parts (character :: rest) = .literal character :: parts rest := by
  rw [parts, partsFrom, if_neg (by simpa using plain)]
  rfl

theorem parts_of_spells {spelled : List Part} {source : List Char}
    (spells : Spells spelled source) : parts source = spelled ∧ .stray ∉ spelled := by
  induction spells with
  | done => exact ⟨rfl, List.not_mem_nil⟩
  | literal plain _ ih =>
    obtain ⟨read, clear⟩ := ih
    rw [parts_plain plain, read]
    exact ⟨rfl, by simpa using clear⟩
  | sign sign _ ih =>
    obtain ⟨read, clear⟩ := ih
    obtain ⟨part, rest⟩ := partBehind_of_spellsSign sign
    rw [parts_sign, part, rest, read]
    refine ⟨rfl, ?_⟩
    rw [List.mem_cons, not_or]
    refine ⟨?_, clear⟩
    rintro rfl
    cases sign

theorem spells_parts {source : List Char} (clear : .stray ∉ parts source) :
    Spells (parts source) source := by
  -- A sign takes several characters at once, so the text gets shorter by more than one.
  induction length : source.length using Nat.strongRecOn generalizing source with
  | _ count ih =>
    cases source with
    | nil => exact .done
    | cons first rest =>
      by_cases plain : first = '$'
      · subst plain
        rw [parts_sign, List.mem_cons, not_or] at clear
        have shorter : (rest.drop (partBehind rest).2).length < count := by
          rw [← length, List.length_drop, List.length_cons]
          omega
        rw [parts_sign]
        rcases partBehind_cases rest with stray | sign
        · exact absurd stray.symm clear.1
        · exact .sign sign (ih _ shorter clear.2 rfl)
      · rw [parts_plain plain, List.mem_cons, not_or] at clear
        rw [parts_plain plain]
        exact .literal plain (ih rest.length (by simp [← length]) clear.2 rfl)

/-- The parts that a text spells are those that are read off it, if no dollar sign is left
over. -/
theorem spells_iff (spelled : List Part) (source : List Char) :
    Spells spelled source ↔ parts source = spelled ∧ .stray ∉ spelled := by
  constructor
  · exact parts_of_spells
  · rintro ⟨rfl, clear⟩
    exact spells_parts clear

theorem isValid_iff_spells (source : List Char) :
    isValid source = true ↔ ∃ spelled, Spells spelled source := by
  simp [isValid, spells_iff]

/-! ## Rendering -/

/-- The text of a part, that of a placeholder being its value. -/
def Part.filled (values : List Char → Option (List Char)) : Part → List Char
  | .literal character => [character]
  | .placeholder name => (values name).getD []
  | .stray => []

section Values

variable {values : List Char → Option (List Char)}

theorem render_of_known {parts : List Part} (clear : .stray ∉ parts)
    (known : ∀ name, .placeholder name ∈ parts → values name ≠ none) :
    render values parts = .ok (parts.flatMap (Part.filled values)) := by
  induction parts with
  | nil => rfl
  | cons part rest ih =>
    rw [List.mem_cons, not_or] at clear
    have others := ih clear.2 fun name member => known name (List.mem_cons_of_mem _ member)
    cases part with
    | literal character => simp [render, others, Except.map, Part.filled]
    | placeholder name =>
      obtain ⟨value, valued⟩ := Option.ne_none_iff_exists'.mp (known name List.mem_cons_self)
      simp [render, valued, others, Except.map, Part.filled]
    | stray => exact absurd rfl clear.1

theorem render_of_unknown {parts : List Part} (clear : .stray ∉ parts) {name : List Char}
    (named : .placeholder name ∈ parts) (unknown : values name = none) :
    render values parts = .error .missingKey := by
  induction parts with
  | nil => cases named
  | cons part rest ih =>
    rw [List.mem_cons, not_or] at clear
    rcases List.mem_cons.mp named with rfl | named
    · rw [render, unknown]
    · have others := ih clear.2 named
      cases part with
      | literal character => simp [render, others, Except.map]
      | placeholder first =>
        cases valued : values first <;> simp [render, valued, others, Except.map]
      | stray => exact absurd rfl clear.1

end Values

end Template

namespace LinkTemplate

/-- A text is accepted in the place of a template, and kept, if it spells some parts; an empty
one sets no template. -/
theorem ofText_accepts_iff (source : String) :
    (∃ template, ofText source = .accepted template ∧
        (template.map LinkTemplate.source).getD "" = source) ↔
      ∃ parts, Template.Spells parts source.toList := by
  rw [← Template.isValid_iff_spells, ofText]
  by_cases empty : source = ""
  · subst empty
    exact iff_of_true ⟨none, rfl, rfl⟩ (by decide)
  · have filled : ¬source.isEmpty = true := by simpa using empty
    rw [if_neg filled, ofSource?]
    by_cases valid : Template.isValid source.toList = true
    · simp [valid]
    · simp [valid, Checked.refuse]

theorem exists_spelled (template : LinkTemplate) :
    ∃ parts, Template.Spells parts template.source.toList :=
  (Template.isValid_iff_spells _).mp template.valid

section Parts

variable {template : LinkTemplate} {parts : List Template.Part}
  (spelled : Template.Spells parts template.source.toList)
  {values : List Char → Option (List Char)}
include spelled

theorem render_of_known (known : ∀ name, .placeholder name ∈ parts → values name ≠ none) :
    template.render values = .ok (parts.flatMap (Template.Part.filled values)) := by
  obtain ⟨read, clear⟩ := (Template.spells_iff _ _).mp spelled
  rw [render, read]
  exact Template.render_of_known clear known

theorem render_of_unknown {name : List Char} (named : .placeholder name ∈ parts)
    (unknown : values name = none) : template.render values = .error .missingKey := by
  obtain ⟨read, clear⟩ := (Template.spells_iff _ _).mp spelled
  rw [render, read]
  exact Template.render_of_unknown clear named unknown

end Parts

end LinkTemplate

end LeaseRoster
