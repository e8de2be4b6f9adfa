import LeaseRoster.Text.Blank
import LeaseRoster.Text.Digit
import LeaseRoster.Text.Hex
import Mathlib.Data.Nat.Digits.Defs

/-!
# Pieces of texts and written numbers

The pieces of a text keep all its characters but those that separate them, and a text without
such a character is one piece.  A number is written in the digits that denote it.
-/

namespace LeaseRoster

namespace Text

/-! ## Pieces -/

theorem pieces_of_clear {separates : Char → Bool} {text : List Char}
    (clear : ∀ character ∈ text, separates character = false) :
    pieces separates text = [text] := by
  induction text with
  | nil => rfl
  | cons first rest ih =>
    have others := ih fun character member => clear character (List.mem_cons_of_mem _ member)
    simp [pieces, clear first (by simp), others]

theorem pieces_of_not_mem {mark : Char} {text : List Char} (absent : mark ∉ text) :
    pieces (· == mark) text = [text] := by
  refine pieces_of_clear fun character member => ?_
  rw [beq_eq_false_iff_ne]
  rintro rfl
  exact absent member

/-- Nothing is lost between the pieces of a text but what separates them. -/
theorem exists_piece_of_mem {separates : Char → Bool} {text : List Char} {character : Char}
    (member : character ∈ text) (kept : separates character = false) :
    ∃ piece ∈ pieces separates text, character ∈ piece := by
  obtain ⟨before, after, rfl⟩ := List.append_of_mem member
  clear member
  induction before with
  | nil =>
    rw [List.nil_append, pieces, if_neg (by simp [kept])]
    split
    · exact ⟨[character], by simp, by simp⟩
    · exact ⟨_, List.mem_cons_self, List.mem_cons_self⟩
  | cons first rest ih =>
    obtain ⟨piece, present, inside⟩ := ih
    rw [List.cons_append, pieces]
    split
    · exact ⟨piece, List.mem_cons_of_mem _ present, inside⟩
    · split
      next none => rw [none] at present; cases present
      next head others some =>
        rw [some, List.mem_cons] at present
        rcases present with rfl | present
        · exact ⟨first :: piece, List.mem_cons_self, List.mem_cons_of_mem _ inside⟩
        · exact ⟨piece, List.mem_cons_of_mem _ present, inside⟩

theorem mem_of_mem_pieces {separates : Char → Bool} {text piece : List Char} {character : Char}
    (present : piece ∈ pieces separates text) (inside : character ∈ piece) :
    character ∈ text := by
  induction text generalizing piece with
  | nil => simp_all [pieces]
  | cons first rest ih =>
    rw [pieces] at present
    split at present
    · rcases List.mem_cons.mp present with rfl | present
      · cases inside
      · exact List.mem_cons_of_mem _ (ih present inside)
    · split at present
      · simp_all
      next head others some =>
        rcases List.mem_cons.mp present with rfl | present
        · rcases List.mem_cons.mp inside with rfl | inside
          · exact List.mem_cons_self
          · exact List.mem_cons_of_mem _ (ih (some ▸ List.mem_cons_self) inside)
        · exact List.mem_cons_of_mem _ (ih (some ▸ List.mem_cons_of_mem _ present) inside)

/-! ## Readings of many texts -/

/-- Items are read one by one. -/
theorem mapM_eq_some_iff {α β : Type} {read : α → Option β} {items : List α} {values : List β} :
    items.mapM read = some values ↔ items.map read = values.map some := by
  induction items generalizing values with
  | nil => cases values <;> simp
  | cons item rest ih =>
    cases values with
    | nil => simp [List.mapM_cons, Option.bind_eq_some_iff]
    | cons value others => simp [List.mapM_cons, ← ih, Option.bind_eq_some_iff]

theorem mapM_eq_none_of_mem {α β : Type} {read : α → Option β} {items : List α} {item : α}
    (member : item ∈ items) (unread : read item = none) : items.mapM read = none := by
  cases known : items.mapM read with
  | none => rfl
  | some values =>
    have present : none ∈ values.map some := by
      rw [← mapM_eq_some_iff.mp known, ← unread]
      exact List.mem_map_of_mem member
    simp at present

theorem mapM_map_eq_some {α β : Type} {read : β → Option α} {write : α → β} {items : List α}
    (known : ∀ item ∈ items, read (write item) = some item) :
    (items.map write).mapM read = some items := by
  rw [mapM_eq_some_iff, List.map_map]
  exact List.map_congr_left known

theorem length_of_mapM {α β : Type} {read : α → Option β} {items : List α} {values : List β}
    (known : items.mapM read = some values) : values.length = items.length := by
  simpa using (congrArg List.length (mapM_eq_some_iff.mp known)).symm

/-! ## Digits -/

theorem isAsciiDigit_digitChar {value : Nat} (small : value < 10) :
    isAsciiDigit value.digitChar = true := by
  have all : ∀ digit < 10, isAsciiDigit digit.digitChar = true := by decide
  exact all value small

theorem toNat_digitChar {value : Nat} (small : value < 10) :
    value.digitChar.toNat - 0x30 = value := by
  have all : ∀ digit < 10, digit.digitChar.toNat - 0x30 = digit := by decide
  exact all value small

theorem decimalValue?_digitChar {digit : Nat} (small : digit < 10) :
    decimalValue? digit.digitChar = some digit := by
  have all : ∀ digit < 10, decimalValue? digit.digitChar = some digit := by decide
  exact all digit small

/-- The digits of a number, the first one in front, are what is written of it. -/
theorem exists_digits_toDigits (base : Nat) (large : 1 < base) (value : Nat) :
    ∃ digits : List Nat, digits ≠ [] ∧ (∀ digit ∈ digits, digit < base) ∧
      Nat.toDigits base value = digits.map Nat.digitChar ∧ ofDigits base digits = value := by
  induction value using Nat.strongRecOn with
  | _ value ih =>
    by_cases small : value < base
    · refine ⟨[value], by simp, by simpa using small, ?_, by simp [ofDigits]⟩
      rw [Nat.toDigits_of_lt_base small]
      rfl
    · have positive : 0 < value := by omega
      obtain ⟨digits, -, bounded, written, denoted⟩ :=
        ih (value / base) (Nat.div_lt_self positive large)
      have last : value % base < base := Nat.mod_lt value (by omega)
      refine ⟨digits ++ [value % base], by simp, ?_, ?_, ?_⟩
      · intro digit member
        rcases List.mem_append.mp member with early | late
        · exact bounded digit early
        · rw [List.mem_singleton.mp late]
          exact last
      · rw [Nat.toDigits_of_base_le large (Nat.not_lt.mp small), written, List.map_append]
        rfl
      · simp only [ofDigits, List.foldl_append, List.foldl_cons, List.foldl_nil] at denoted ⊢
        rw [denoted, Nat.div_add_mod']

theorem exists_digits_decimal (value : Nat) :
    ∃ digits : List Nat, digits ≠ [] ∧ (∀ digit ∈ digits, digit < 10) ∧
      decimal value = digits.map Nat.digitChar ∧ ofDigits 10 digits = value :=
  exists_digits_toDigits 10 (by decide) value

theorem isAsciiDigit_of_mem_decimal {value : Nat} {character : Char}
    (member : character ∈ decimal value) : isAsciiDigit character = true := by
  obtain ⟨digits, -, bounded, written, -⟩ := exists_digits_decimal value
  rw [written] at member
  obtain ⟨digit, present, rfl⟩ := List.mem_map.mp member
  exact isAsciiDigit_digitChar (bounded digit present)

theorem decimal_ne_nil (value : Nat) : decimal value ≠ [] := by
  obtain ⟨digits, some_digits, -, written, -⟩ := exists_digits_decimal value
  simpa [written] using some_digits

theorem isDecimal_of_mem_decimal {value : Nat} {character : Char}
    (member : character ∈ decimal value) : isDecimal character = true := by
  obtain ⟨digits, -, bounded, written, -⟩ := exists_digits_decimal value
  rw [written] at member
  obtain ⟨digit, present, rfl⟩ := List.mem_map.mp member
  rw [isDecimal, decimalValue?_digitChar (bounded digit present), Option.isSome_some]

theorem filterMap_digitChar {digits : List Nat} (bounded : ∀ digit ∈ digits, digit < 10) :
    (digits.map Nat.digitChar).filterMap decimalValue? = digits := by
  induction digits with
  | nil => rfl
  | cons digit others ih =>
    obtain ⟨small, rest⟩ := List.forall_mem_cons.mp bounded
    rw [List.map_cons, List.filterMap_cons_some (decimalValue?_digitChar small), ih rest]

/-- What is written of a number denotes it. -/
theorem ofDigits_decimal (value : Nat) :
    ofDigits 10 ((decimal value).filterMap decimalValue?) = value := by
  obtain ⟨digits, -, bounded, written, denoted⟩ := exists_digits_decimal value
  rw [written, filterMap_digitChar bounded, denoted]

theorem not_mem_decimal {mark : Char} (other : isAsciiDigit mark = false) (value : Nat) :
    mark ∉ decimal value := by
  intro member
  rw [isAsciiDigit_of_mem_decimal member] at other
  cases other

end Text

end LeaseRoster
