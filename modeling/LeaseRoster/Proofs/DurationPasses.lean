import LeaseRoster.Proofs.DurationTokens

/-!
# Durations in two passes

A text that sets a duration can be read in two passes.  The first one decides whether the whole
of it is made of tokens with the letters of units.  The second one looks for tokens with any
letters, and looks up the units of those that it finds.  Where the first pass accepts, the second
one passes over nothing and finds every unit, so that both together read what is read in one pass.
-/

namespace LeaseRoster

namespace Duration

open Text (isDecimal decimalValue?)

/-! ## The two passes -/

/-- The part that a token stands for in some unit. -/
def Token.inUnit (token : Token) (unit : TimeUnit) : Part :=
  ⟨token.whole.filterMap decimalValue?,
    token.fraction.map fun digits => digits.filterMap decimalValue?, unit⟩

/-- The part that a token stands for, or else the letter that names no unit. -/
def Token.part (token : Token) : Except Char Part :=
  match TimeUnit.ofLetter? token.letter with
  | some unit => .ok (token.inUnit unit)
  | none => .error token.letter

/-- What a text says about a duration, read in two passes.  The second one stops at a letter
that names no unit. -/
def scan (text : List Char) : Except Char Reading :=
  let stripped := Text.strip text
  if stripped.isEmpty then .ok .unset
  else
    let (negative, unsigned) := splitMinus stripped
    if unsigned == ['0'] then .ok (.length zero)
    else if isWritten unsigned then
      ((tokens unsigned).mapM Token.part).map (ofParts negative)
    else .ok .unreadable

/-! ## One pass -/

section Digits

variable {digits : List Char} (decimal : ∀ character ∈ digits, isDecimal character = true)
include decimal

theorem partsFrom_whole (whole : List Nat) (rest : List Char) :
    partsFrom whole none (digits ++ rest) =
      partsFrom ((digits.filterMap decimalValue?).reverse ++ whole) none rest := by
  induction digits generalizing whole with
  | nil => rfl
  | cons first others ih =>
    obtain ⟨isDigit, more⟩ := List.forall_mem_cons.mp decimal
    obtain ⟨digit, read⟩ := Option.isSome_iff_exists.mp isDigit
    rw [List.cons_append, partsFrom, read, List.filterMap_cons_some read]
    simp [ih more]

theorem partsFrom_fraction (whole before : List Nat) (rest : List Char) :
    partsFrom whole (some before) (digits ++ rest) =
      partsFrom whole (some ((digits.filterMap decimalValue?).reverse ++ before)) rest := by
  induction digits generalizing before with
  | nil => rfl
  | cons first others ih =>
    obtain ⟨isDigit, more⟩ := List.forall_mem_cons.mp decimal
    obtain ⟨digit, read⟩ := Option.isSome_iff_exists.mp isDigit
    rw [List.cons_append, partsFrom, read, List.filterMap_cons_some read]
    simp [ih more]

theorem isEmpty_filterMap_decimalValue? :
    (digits.filterMap decimalValue?).isEmpty = digits.isEmpty := by
  cases digits with
  | nil => rfl
  | cons first others =>
    obtain ⟨digit, read⟩ := Option.isSome_iff_exists.mp (decimal first List.mem_cons_self)
    rw [List.filterMap_cons_some read]
    rfl

end Digits

theorem decimalValue?_eq_none {character : Char} (other : isDecimal character = false) :
    decimalValue? character = none := by
  simpa [isDecimal] using other

theorem partsFrom_point (whole : List Nat) (rest : List Char) :
    partsFrom whole none ('.' :: rest) = partsFrom whole (some []) rest := by
  rw [partsFrom, decimalValue?_eq_none (by decide)]
  rfl

/-- A letter of a unit closes a part. -/
theorem partsFrom_letter {whole : List Nat} {fraction : Option (List Nat)} {letter : Char}
    {unit : TimeUnit} (named : TimeUnit.ofLetter? letter = some unit)
    (number : isNumber whole fraction = true) (rest : List Char) :
    partsFrom whole fraction (letter :: rest) =
      (partsFrom [] none rest).map (⟨whole.reverse, fraction.map List.reverse, unit⟩ :: ·) := by
  have ascii := isAsciiLetter_of_isUnitLetter letter (isUnitLetter_of_ofLetter? named)
  have notPoint : letter ≠ '.' := by
    rintro rfl
    exact absurd ascii (by decide)
  rw [partsFrom, decimalValue?_eq_none (Text.isDecimal_of_isAsciiLetter ascii)]
  simp [notPoint, named, number]

theorem partsFrom_token {token : Token} (fits : token.Fits isUnitLetter) {unit : TimeUnit}
    (named : TimeUnit.ofLetter? token.letter = some unit) (rest : List Char) :
    partsFrom [] none (token.text ++ rest) =
      (partsFrom [] none rest).map (token.inUnit unit :: ·) := by
  rcases token with ⟨whole, fraction, letter⟩
  cases fraction with
  | none =>
    have number : isNumber (whole.filterMap decimalValue?).reverse none = true := by
      rw [isNumber, List.isEmpty_reverse, isEmpty_filterMap_decimalValue? fits.whole]
      simpa using fits.started rfl
    have spelled : (Token.mk whole none letter).text ++ rest = whole ++ letter :: rest := by
      simp [Token.text, Token.fractionText]
    rw [spelled, partsFrom_whole fits.whole, List.append_nil, partsFrom_letter named number]
    simp [Token.inUnit]
  | some digits =>
    obtain ⟨some_digits, decimal⟩ := fits.fraction digits rfl
    have number : isNumber (whole.filterMap decimalValue?).reverse
        (some (digits.filterMap decimalValue?).reverse) = true := by
      rw [isNumber, List.isEmpty_reverse, isEmpty_filterMap_decimalValue? decimal]
      simpa using some_digits
    have spelled : (Token.mk whole (some digits) letter).text ++ rest =
        whole ++ '.' :: (digits ++ letter :: rest) := by
      simp [Token.text, Token.fractionText]
    rw [spelled, partsFrom_whole fits.whole, partsFrom_point, partsFrom_fraction decimal,
      List.append_nil, List.append_nil, partsFrom_letter named number]
    simp [Token.inUnit]

/-- Digits that are read to the end belong to a part, which the letter of a unit closes. -/
theorem exists_letter_of_partsFrom {whole : List Nat} {fraction : Option (List Nat)}
    {rest : List Char} {parts : List Part} (read : partsFrom whole fraction rest = some parts)
    (stops : ∀ character ∈ rest.head?, isDecimal character = false)
    (pointless : fraction = none → rest.head? ≠ some '.')
    (open_part : whole ≠ [] ∨ fraction ≠ none ∨ rest ≠ []) :
    ∃ letter behind, rest = letter :: behind ∧ isUnitLetter letter = true ∧
      isNumber whole fraction = true := by
  cases rest with
  | nil =>
    rw [partsFrom] at read
    split at read
    next closed =>
      simp only [Bool.and_eq_true, List.isEmpty_iff, Option.isNone_iff_eq_none] at closed
      exact absurd open_part (by simp [closed])
    next => cases read
  | cons letter behind =>
    rw [partsFrom, decimalValue?_eq_none (stops letter rfl)] at read
    have noPoint : (letter == '.' && fraction.isNone) = false := by
      rw [Bool.and_eq_false_imp, beq_iff_eq]
      rintro rfl
      cases fraction with
      | none => exact absurd rfl (pointless rfl)
      | some digits => rfl
    simp only [noPoint] at read
    split at read
    next => contradiction
    next =>
      split at read
      next unit named =>
        split at read
        next number => exact ⟨letter, behind, rfl, isUnitLetter_of_ofLetter? named, number⟩
        next => cases read
      next => cases read

/-- Where a part is read there is a token with the letter of a unit. -/
theorem exists_token_of_partsFrom {text : List Char} {parts : List Part}
    (read : partsFrom [] none text = some parts) (some_text : text ≠ []) :
    ∃ (token : Token) (rest : List Char), token.Fits isUnitLetter ∧ text = token.text ++ rest := by
  have decimal {text : List Char} :
      ∀ character ∈ text.takeWhile isDecimal, isDecimal character = true :=
    fun character => List.mem_takeWhile_imp
  have stops {text : List Char} :
      ∀ character ∈ (text.dropWhile isDecimal).head?, isDecimal character = false := by
    intro character member
    have stopped := List.head?_dropWhile_not isDecimal text
    rw [Option.mem_def.mp member] at stopped
    exact stopped
  have parted := List.takeWhile_append_dropWhile (p := isDecimal) (l := text)
  rw [← parted, partsFrom_whole decimal, List.append_nil] at read
  -- Behind the digits in front stands a point, which opens a fraction, or else the letter.
  by_cases point : (text.dropWhile isDecimal).head? = some '.'
  · obtain ⟨behind, opened⟩ := List.head?_eq_some_iff.mp point
    have fraction := List.takeWhile_append_dropWhile (p := isDecimal) (l := behind)
    rw [opened, partsFrom_point, ← fraction, partsFrom_fraction decimal, List.append_nil] at read
    obtain ⟨letter, rest, closing, accepted, number⟩ :=
      exists_letter_of_partsFrom read stops (by simp) (by simp)
    rw [isNumber, List.isEmpty_reverse, isEmpty_filterMap_decimalValue? decimal] at number
    refine ⟨⟨text.takeWhile isDecimal, some (behind.takeWhile isDecimal), letter⟩, rest,
      ⟨decimal, by simp, ?_, accepted⟩, ?_⟩
    · rintro _ ⟨⟩
      exact ⟨by simpa using number, decimal⟩
    · simp [Token.text, Token.fractionText, ← closing, ← opened]
  · have open_part : (text.takeWhile isDecimal).filterMap decimalValue? ≠ [] ∨
        text.dropWhile isDecimal ≠ [] := by
      refine or_iff_not_imp_left.mpr fun none nothing => some_text ?_
      rw [not_not, ← List.isEmpty_iff, isEmpty_filterMap_decimalValue? decimal,
        List.isEmpty_iff] at none
      rw [← parted, none, nothing, List.append_nil]
    obtain ⟨letter, rest, closing, accepted, number⟩ :=
      exists_letter_of_partsFrom read stops (fun _ => point)
        (open_part.imp (List.reverse_eq_nil_iff.not.mpr ·) Or.inr)
    rw [isNumber, List.isEmpty_reverse, isEmpty_filterMap_decimalValue? decimal] at number
    refine ⟨⟨text.takeWhile isDecimal, none, letter⟩, rest,
      ⟨decimal, fun _ => by simpa using number, by simp, accepted⟩, ?_⟩
    simp [Token.text, Token.fractionText, ← closing]

/-- One pass reads the parts of the tokens in front, unless something is left behind them. -/
theorem exists_parts (text : List Char) :
    ∃ parts, (leadingTokens text).1.mapM Token.part = .ok parts ∧
      partsFrom [] none text = if (leadingTokens text).2.isEmpty then some parts else none := by
  -- The tokens are taken off the front one by one, as the first pass does it.
  fun_induction leadingTokens text with
  | case1 text unfound =>
    refine ⟨[], rfl, ?_⟩
    cases read : partsFrom [] none text with
    | none =>
      cases text with
      | nil => cases read
      | cons first rest => rfl
    | some parts =>
      by_cases some_text : text = []
      · rw [some_text] at read ⊢
        exact read.symm
      · obtain ⟨token, rest, fits, rfl⟩ := exists_token_of_partsFrom read some_text
        rw [token?_of_fits isAsciiLetter_of_isUnitLetter fits] at unfound
        cases unfound
  | case2 text token rest found ih =>
    obtain ⟨parts, looked, read⟩ := ih
    obtain ⟨fits, rfl⟩ := fits_of_token? found
    obtain ⟨unit, named⟩ := exists_unit_of_isUnitLetter fits.letter
    refine ⟨token.inUnit unit :: parts, ?_, ?_⟩
    · rw [List.mapM_cons, looked, Token.part, named]
      rfl
    · rw [partsFrom_token fits named, read]
      split <;> rfl

theorem parts?_of_not_isWritten {text : List Char} (unwritten : isWritten text = false) :
    parts? text = none := by
  obtain ⟨parts, -, read⟩ := exists_parts text
  obtain ⟨-, whole, -⟩ := leadingTokens_sound text
  rw [parts?, read]
  by_cases ended : (leadingTokens text).2 = []
  · rw [isWritten, ended] at unwritten
    have none : (leadingTokens text).1 = [] := by simpa using unwritten
    rw [none, ended] at whole
    rw [← whole]
    rfl
  · simp [ended]

/-- Where the first pass accepts a text, the tokens that the second one finds are the whole of
it, each has the letter of a unit, and one pass reads their parts. -/
theorem tokens_of_isWritten {text : List Char} (written : isWritten text = true)
    (unbroken : text.getLast? ≠ some '\n') :
    (tokens text).flatMap Token.text = text ∧
      (∀ token ∈ tokens text, ∃ unit, TimeUnit.ofLetter? token.letter = some unit) ∧
        ∃ parts, (tokens text).mapM Token.part = .ok parts ∧ parts? text = some parts := by
  obtain ⟨found, some_tokens, fits, rfl | rfl⟩ := (isWritten_iff text).mp written
  · have none : token? isUnitLetter [] = none := rfl
    have leading := leadingTokens_append fits none
    rw [List.append_nil] at leading
    obtain ⟨parts, looked, read⟩ := exists_parts (found.flatMap Token.text)
    rw [leading] at looked read
    rw [tokens_flatMap fits]
    refine ⟨rfl, fun token member => exists_unit_of_isUnitLetter (fits token member).letter,
      parts, looked, ?_⟩
    have some_text : found.flatMap Token.text ≠ [] := by
      cases found with
      | nil => exact absurd rfl some_tokens
      | cons token others => simp [Token.text]
    rw [parts?, List.isEmpty_eq_false_iff.mpr some_text]
    exact read
  · exact absurd List.getLast?_concat unbroken

theorem getLast?_splitMinus_strip (text : List Char) :
    (splitMinus (Text.strip text)).2.getLast? ≠ some '\n' := by
  have behind : (splitMinus (Text.strip text)).2 <:+ Text.strip text := by
    unfold splitMinus
    split
    next rest same =>
      rw [same]
      exact List.suffix_cons '-' rest
    next => exact List.suffix_rfl
  intro broken
  have last : (Text.strip text).getLast? = some '\n' := by
    obtain ⟨front, same⟩ := behind
    rw [← same, List.getLast?_append, broken]
    rfl
  rw [Text.strip, Text.stripEnd, List.getLast?_reverse] at last
  have stopped := List.head?_dropWhile_not Text.isBlank (text.dropWhile Text.isBlank).reverse
  rw [last] at stopped
  exact absurd stopped (by decide)

/-- Two passes read what one does, so that no letter is ever looked up in vain. -/
theorem scan_eq_read (text : List Char) : scan text = .ok (read text) := by
  have unbroken := getLast?_splitMinus_strip text
  unfold scan read
  simp only
  split
  · rfl
  · split
    · rfl
    · split
      next written =>
        obtain ⟨-, -, parts, looked, found⟩ := tokens_of_isWritten written unbroken
        rw [looked, found]
        rfl
      next unwritten =>
        rw [parts?_of_not_isWritten (Bool.eq_false_iff.mpr unwritten)]

end Duration

end LeaseRoster
