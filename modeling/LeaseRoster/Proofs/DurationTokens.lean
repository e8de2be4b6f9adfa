import LeaseRoster.Proofs.Numerals
import LeaseRoster.Time.DurationText
import Mathlib.Data.List.TakeWhile

/-!
# Tokens of durations

The tokens of a text that sets a duration are numbers with a letter behind them.  They are looked
for in two ways: as many as possible from the front, with the letters of units only, and
wherever they start, with any letters and past everything that belongs to none.  A text has at
most one token at its front, so that both ways find the same tokens in a text that is made of
tokens with the letters of units.
-/

namespace LeaseRoster

namespace Text

theorem isDecimal_of_isAsciiLetter {character : Char} (letter : isAsciiLetter character = true) :
    isDecimal character = false := by
  have none : ∀ code < 128, isAsciiLetter (Char.ofNat code) = true →
      isDecimal (Char.ofNat code) = false := by decide
  have ascii : character.toNat < 128 := by
    simp only [isAsciiLetter, Bool.or_eq_true, Bool.and_eq_true, decide_eq_true_eq] at letter
    omega
  have known := none _ ascii
  rw [Char.ofNat_toNat] at known
  exact known letter

section Digits

variable {digits : List Char} (decimal : ∀ character ∈ digits, isDecimal character = true)
  {stop : Char} (stops : isDecimal stop = false) (rest : List Char)
include decimal stops

theorem takeWhile_digits : (digits ++ stop :: rest).takeWhile isDecimal = digits := by
  rw [List.takeWhile_append_of_pos decimal, List.takeWhile_cons_of_neg (by simp [stops]),
    List.append_nil]

theorem dropWhile_digits : (digits ++ stop :: rest).dropWhile isDecimal = stop :: rest := by
  rw [List.dropWhile_append_of_pos decimal, List.dropWhile_cons_of_neg (by simp [stops])]

end Digits

end Text

namespace Duration

open Text (isDecimal isAsciiLetter)

/-! ## Tokens -/

/-- A number with a letter behind it: the digits before the point, those after it if there is
one, and the letter. -/
structure Token where
  whole : List Char
  fraction : Option (List Char)
  letter : Char
deriving DecidableEq

namespace Token

/-- What is written between the digits before the point and the letter. -/
def fractionText (token : Token) : List Char :=
  match token.fraction with
  | none => []
  | some digits => '.' :: digits

def text (token : Token) : List Char := token.whole ++ token.fractionText ++ [token.letter]

/-- Whether a token is one with some kind of letter. -/
structure Fits (accepts : Char → Bool) (token : Token) : Prop where
  whole : ∀ character ∈ token.whole, isDecimal character = true
  started : token.fraction = none → token.whole ≠ []
  fraction : ∀ digits, token.fraction = some digits →
    digits ≠ [] ∧ ∀ character ∈ digits, isDecimal character = true
  letter : accepts token.letter = true

end Token

/-- The token that a letter at the front of a text closes, and what follows. -/
def closed? (accepts : Char → Bool) (whole : List Char) (fraction : Option (List Char)) :
    List Char → Option (Token × List Char)
  | [] => none
  | letter :: rest => if accepts letter then some (⟨whole, fraction, letter⟩, rest) else none

/-- The token at the front of a text, and what follows it. -/
def token? (accepts : Char → Bool) (text : List Char) : Option (Token × List Char) :=
  let whole := text.takeWhile isDecimal
  match text.dropWhile isDecimal with
  | '.' :: behind =>
    let fraction := behind.takeWhile isDecimal
    if fraction.isEmpty then none
    else closed? accepts whole (some fraction) (behind.dropWhile isDecimal)
  | behind => if whole.isEmpty then none else closed? accepts whole none behind

theorem closed?_eq_some_iff {accepts : Char → Bool} {whole text rest : List Char}
    {fraction : Option (List Char)} {token : Token} :
    closed? accepts whole fraction text = some (token, rest) ↔
      text = token.letter :: rest ∧ token.whole = whole ∧ token.fraction = fraction ∧
        accepts token.letter = true := by
  cases text with
  | nil => simp [closed?]
  | cons letter behind =>
    rcases token with ⟨whole', fraction', letter'⟩
    by_cases accepted : accepts letter = true
    · simp only [closed?, if_pos accepted, Option.some.injEq, Prod.mk.injEq, Token.mk.injEq,
        List.cons.injEq]
      constructor
      · rintro ⟨⟨rfl, rfl, rfl⟩, rfl⟩
        exact ⟨⟨rfl, rfl⟩, rfl, rfl, accepted⟩
      · rintro ⟨⟨rfl, rfl⟩, rfl, rfl, -⟩
        exact ⟨⟨rfl, rfl, rfl⟩, rfl⟩
    · simp only [closed?, if_neg accepted, List.cons.injEq]
      constructor
      · intro impossible
        cases impossible
      · rintro ⟨⟨rfl, rfl⟩, -, -, other⟩
        exact absurd other accepted

section Letters

variable {accepts : Char → Bool}
  (letters : ∀ character, accepts character = true → isAsciiLetter character = true)

include letters in
theorem token?_of_fits {token : Token} (fits : token.Fits accepts) (rest : List Char) :
    token? accepts (token.text ++ rest) = some (token, rest) := by
  have letterStops := Text.isDecimal_of_isAsciiLetter (letters _ fits.letter)
  have notPoint : token.letter ≠ '.' := by
    intro point
    have letter := letters _ fits.letter
    rw [point] at letter
    exact absurd letter (by decide)
  rcases token with ⟨whole, fraction, letter⟩
  cases fraction with
  | none =>
    have spelled : (Token.mk whole none letter).text ++ rest = whole ++ letter :: rest := by
      simp [Token.text, Token.fractionText]
    have started : whole.isEmpty = false := by simpa using fits.started rfl
    rw [spelled, token?, Text.takeWhile_digits fits.whole letterStops,
      Text.dropWhile_digits fits.whole letterStops]
    split
    next behind same => exact absurd (List.cons.inj same).1 notPoint
    next =>
      rw [started]
      exact closed?_eq_some_iff.mpr ⟨rfl, rfl, rfl, fits.letter⟩
  | some digits =>
    have spelled : (Token.mk whole (some digits) letter).text ++ rest =
        whole ++ '.' :: (digits ++ letter :: rest) := by
      simp [Token.text, Token.fractionText]
    obtain ⟨some_digits, decimal⟩ := fits.fraction digits rfl
    have some_fraction : digits.isEmpty = false := by simpa using some_digits
    rw [spelled, token?, Text.takeWhile_digits fits.whole (by decide),
      Text.dropWhile_digits fits.whole (by decide)]
    simp only [Text.takeWhile_digits decimal letterStops,
      Text.dropWhile_digits decimal letterStops, some_fraction]
    exact closed?_eq_some_iff.mpr ⟨rfl, rfl, rfl, fits.letter⟩

theorem fits_of_token? {text rest : List Char} {token : Token}
    (found : token? accepts text = some (token, rest)) :
    token.Fits accepts ∧ text = token.text ++ rest := by
  have whole : ∀ character ∈ text.takeWhile isDecimal, isDecimal character = true :=
    fun character => List.mem_takeWhile_imp
  unfold token? at found
  simp only at found
  split at found
  next behind opened =>
    split at found
    next => cases found
    next some_digits =>
      obtain ⟨closing, sameWhole, sameFraction, letter⟩ := closed?_eq_some_iff.mp found
      refine ⟨⟨sameWhole ▸ whole, ?_, ?_, letter⟩, ?_⟩
      · rw [sameFraction]
        rintro ⟨⟩
      · rw [sameFraction]
        rintro _ ⟨⟩
        exact ⟨by simpa using some_digits, fun character => List.mem_takeWhile_imp⟩
      · have spelled : token.text ++ rest = text.takeWhile isDecimal ++
            '.' :: (behind.takeWhile isDecimal ++ token.letter :: rest) := by
          simp [Token.text, Token.fractionText, sameWhole, sameFraction]
        rw [spelled, ← closing, List.takeWhile_append_dropWhile, ← opened,
          List.takeWhile_append_dropWhile]
  next =>
    split at found
    next => cases found
    next started =>
      obtain ⟨closing, sameWhole, sameFraction, letter⟩ := closed?_eq_some_iff.mp found
      refine ⟨⟨sameWhole ▸ whole, ?_, ?_, letter⟩, ?_⟩
      · rw [sameWhole]
        exact fun _ => by simpa using started
      · rw [sameFraction]
        rintro _ ⟨⟩
      · have spelled : token.text ++ rest = text.takeWhile isDecimal ++ token.letter :: rest := by
          simp [Token.text, Token.fractionText, sameWhole, sameFraction]
        rw [spelled, ← closing, List.takeWhile_append_dropWhile]

include letters in
/-- A text has at most one token at its front, whatever way one looks for it. -/
theorem token?_eq_some_iff {text rest : List Char} {token : Token} :
    token? accepts text = some (token, rest) ↔
      token.Fits accepts ∧ text = token.text ++ rest := by
  constructor
  · exact fits_of_token?
  · rintro ⟨fits, rfl⟩
    exact token?_of_fits letters fits rest

theorem length_lt_of_token? {text rest : List Char} {token : Token}
    (found : token? accepts text = some (token, rest)) : rest.length < text.length := by
  rw [(fits_of_token? found).2, Token.text, List.length_append, List.length_append]
  simp

end Letters

/-! ## Letters of units -/

/-- The letters with which a token of a duration may end. -/
def unitLetters : List Char := ['s', 'm', 'h', 'd', 'D', 'w', 'W', 'M', 'y', 'Y']

def isUnitLetter (character : Char) : Bool := unitLetters.contains character

theorem exists_unit_of_isUnitLetter {letter : Char} (accepted : isUnitLetter letter = true) :
    ∃ unit, TimeUnit.ofLetter? letter = some unit := by
  have known : unitLetters.all (fun letter => (TimeUnit.ofLetter? letter).isSome) = true := by
    decide
  have unit := List.all_eq_true.mp known letter (List.contains_iff_mem.mp accepted)
  exact Option.isSome_iff_exists.mp unit

theorem isUnitLetter_of_ofLetter? {letter : Char} {unit : TimeUnit}
    (named : TimeUnit.ofLetter? letter = some unit) : isUnitLetter letter = true := by
  unfold TimeUnit.ofLetter? at named
  split at named
  all_goals first
    | rfl
    | cases named

theorem isAsciiLetter_of_isUnitLetter (letter : Char) (accepted : isUnitLetter letter = true) :
    isAsciiLetter letter = true := by
  have known : unitLetters.all isAsciiLetter = true := by decide
  exact List.all_eq_true.mp known letter (List.contains_iff_mem.mp accepted)

theorem Token.Fits.mono {accepts other : Char → Bool} {token : Token} (fits : token.Fits accepts)
    (more : ∀ character, accepts character = true → other character = true) :
    token.Fits other :=
  { fits with letter := more _ fits.letter }

/-! ## Tokens in a row -/

/-- The tokens with letters of units at the front of a text, as many as possible, and what
follows them. -/
def leadingTokens (text : List Char) : List Token × List Char :=
  match _found : token? isUnitLetter text with
  | none => ([], text)
  | some (token, rest) => (token :: (leadingTokens rest).1, (leadingTokens rest).2)
termination_by text.length
decreasing_by all_goals exact length_lt_of_token? _found

/-- Whether a text is made of tokens with letters of units.  A line feed may end it. -/
def isWritten (text : List Char) : Bool :=
  !(leadingTokens text).1.isEmpty &&
    ((leadingTokens text).2 == [] || (leadingTokens text).2 == ['\n'])

/-- The tokens of a text with any letters, wherever they start. -/
def tokens : List Char → List Token
  | [] => []
  | first :: rest =>
    match _found : token? isAsciiLetter (first :: rest) with
    | none => tokens rest
    | some (token, behind) => token :: tokens behind
termination_by text => text.length
decreasing_by
  · exact Nat.lt_succ_self _
  · exact length_lt_of_token? _found

theorem leadingTokens_of_none {text : List Char} (ends : token? isUnitLetter text = none) :
    leadingTokens text = ([], text) := by
  rw [leadingTokens]
  split
  next => rfl
  next found =>
    rw [ends] at found
    cases found

theorem leadingTokens_of_some {text rest : List Char} {token : Token}
    (found : token? isUnitLetter text = some (token, rest)) :
    leadingTokens text = (token :: (leadingTokens rest).1, (leadingTokens rest).2) := by
  rw [leadingTokens]
  split
  next none =>
    rw [found] at none
    cases none
  next other =>
    rw [found] at other
    cases other
    rfl

theorem tokens_of_some {text rest : List Char} {token : Token}
    (found : token? isAsciiLetter text = some (token, rest)) :
    tokens text = token :: tokens rest := by
  cases text with
  | nil => cases found
  | cons first others =>
    rw [tokens]
    split
    next none =>
      rw [found] at none
      cases none
    next other =>
      rw [found] at other
      cases other
      rfl

/-- What is found in front are tokens, with what is left they make up the text, and there is no
further token at the front of that. -/
theorem leadingTokens_sound (text : List Char) :
    (∀ token ∈ (leadingTokens text).1, token.Fits isUnitLetter) ∧
      (leadingTokens text).1.flatMap Token.text ++ (leadingTokens text).2 = text ∧
        token? isUnitLetter (leadingTokens text).2 = none := by
  fun_induction leadingTokens text with
  | case1 text none => exact ⟨by simp, rfl, none⟩
  | case2 text token rest found ih =>
    obtain ⟨fits, whole, ends⟩ := ih
    obtain ⟨first, spelled⟩ := (token?_eq_some_iff isAsciiLetter_of_isUnitLetter).mp found
    refine ⟨List.forall_mem_cons.mpr ⟨first, fits⟩, ?_, ends⟩
    rw [List.flatMap_cons, List.append_assoc, whole, spelled]

theorem leadingTokens_append {found : List Token}
    (fits : ∀ token ∈ found, token.Fits isUnitLetter) {rest : List Char}
    (ends : token? isUnitLetter rest = none) :
    leadingTokens (found.flatMap Token.text ++ rest) = (found, rest) := by
  induction found with
  | nil => exact leadingTokens_of_none ends
  | cons token others ih =>
    obtain ⟨first, more⟩ := List.forall_mem_cons.mp fits
    have front : token? isUnitLetter (token.text ++ (others.flatMap Token.text ++ rest)) =
        some (token, others.flatMap Token.text ++ rest) :=
      (token?_eq_some_iff isAsciiLetter_of_isUnitLetter).mpr ⟨first, rfl⟩
    rw [List.flatMap_cons, List.append_assoc, leadingTokens_of_some front, ih more]

theorem isWritten_iff (text : List Char) :
    isWritten text = true ↔ ∃ found : List Token, found ≠ [] ∧
      (∀ token ∈ found, token.Fits isUnitLetter) ∧
        (text = found.flatMap Token.text ∨ text = found.flatMap Token.text ++ ['\n']) := by
  constructor
  · intro written
    obtain ⟨fits, whole, -⟩ := leadingTokens_sound text
    simp only [isWritten, Bool.and_eq_true, Bool.not_eq_true', List.isEmpty_eq_false_iff,
      Bool.or_eq_true, beq_iff_eq] at written
    refine ⟨_, written.1, fits, written.2.imp (fun ends => ?_) fun ends => ?_⟩
    · rw [ends, List.append_nil] at whole
      exact whole.symm
    · rw [ends] at whole
      exact whole.symm
  · rintro ⟨found, some_tokens, fits, rfl | rfl⟩
    · have none : token? isUnitLetter [] = none := rfl
      have all := leadingTokens_append fits none
      rw [List.append_nil] at all
      simp [isWritten, all, some_tokens]
    · have none : token? isUnitLetter ['\n'] = none := by decide
      have all := leadingTokens_append fits none
      simp [isWritten, all, some_tokens]

/-- Nothing is passed over in a text that is made of tokens. -/
theorem tokens_flatMap {found : List Token} (fits : ∀ token ∈ found, token.Fits isUnitLetter) :
    tokens (found.flatMap Token.text) = found := by
  induction found with
  | nil => rw [List.flatMap_nil, tokens]
  | cons token others ih =>
    obtain ⟨first, more⟩ := List.forall_mem_cons.mp fits
    have front : token? isAsciiLetter (token.text ++ others.flatMap Token.text) =
        some (token, others.flatMap Token.text) :=
      (token?_eq_some_iff fun _ same => same).mpr
        ⟨first.mono isAsciiLetter_of_isUnitLetter, rfl⟩
    rw [List.flatMap_cons, tokens_of_some front, ih more]

end Duration

end LeaseRoster
