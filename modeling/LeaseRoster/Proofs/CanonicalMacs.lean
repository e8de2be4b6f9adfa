import LeaseRoster.Proofs.LoweredTexts
import LeaseRoster.Proofs.OtherSpellings
import Mathlib.Data.Set.List

/-!
# Normal form of hardware addresses

A text spells a hardware address exactly if twelve hexadecimal digits are left of it, and behind
them at most one line feed, when the blanks around it and the separators are taken away and the
rest is lowered.  The written form is those digits in pairs; it has the pattern that a lease
demands and is its own written form.  Two texts spell the same address exactly if both spell one
and have the same digits up to letter case.
-/

namespace LeaseRoster

namespace MacAddress

open Text (hexDigit lowerChar)

/-! ## Digits -/

/-- Whether a character is a hexadecimal digit and no capital. -/
def isLowerHex (character : Char) : Bool :=
  (0x30 ≤ character.toNat && character.toNat ≤ 0x39) ||
    (0x61 ≤ character.toNat && character.toNat ≤ 0x66)

/-- Digits as they are written, without any separator. -/
def digitsText (digits : List (Fin 16)) : List Char := digits.map fun digit => hexDigit digit.val

theorem toNat_le_of_isLowerHex {character : Char} (lowerHex : isLowerHex character = true) :
    character.toNat ≤ 0x66 := by
  simp only [isLowerHex, Bool.or_eq_true, Bool.and_eq_true, decide_eq_true_eq] at lowerHex
  omega

theorem isLowerHex_iff (character : Char) :
    isLowerHex character = true ↔ ∃ digit : Fin 16, hexDigit digit = character := by
  constructor
  · intro lowerHex
    have all : ∀ code ≤ 0x66, isLowerHex (Char.ofNat code) = true →
        ∃ digit : Fin 16, hexDigit digit = Char.ofNat code := by decide +kernel
    have known := all character.toNat (toNat_le_of_isLowerHex lowerHex)
    rw [Char.ofNat_toNat] at known
    exact known lowerHex
  · rintro ⟨digit, rfl⟩
    revert digit
    decide

theorem isLowerHex_of_mem_digitsText {digits : List (Fin 16)} {character : Char}
    (member : character ∈ digitsText digits) : isLowerHex character = true := by
  obtain ⟨digit, -, rfl⟩ := List.mem_map.mp member
  exact (isLowerHex_iff _).mpr ⟨digit, rfl⟩

theorem toNat_le_of_mem_digitsText {digits : List (Fin 16)} :
    ∀ character ∈ digitsText digits, character.toNat ≤ 0x66 :=
  fun _ member => toNat_le_of_isLowerHex (isLowerHex_of_mem_digitsText member)

theorem exists_digitsText_eq {text : List Char}
    (hexadecimal : ∀ character ∈ text, isLowerHex character = true) :
    ∃ digits, digitsText digits = text := by
  have range : text ∈ Set.range (List.map fun digit : Fin 16 => hexDigit digit.val) := by
    rw [Set.range_list_map]
    exact fun character member => (isLowerHex_iff character).mp (hexadecimal character member)
  exact range

theorem digitsText_injective : Function.Injective digitsText := by
  refine List.map_injective_iff.mpr fun first second equal => ?_
  have read := digit?_hexDigit first
  rw [equal, digit?_hexDigit] at read
  exact (Option.some.inj read).symm

/-- A character is a digit of either case exactly if it is lowered to the written digit. -/
theorem digit?_eq_some_iff (character : Char) (digit : Fin 16) :
    digit? character = some digit ↔ lowerChar character = hexDigit digit := by
  -- On either side the character is not behind `f`, and so far each one is tried.
  have all : ∀ code ≤ 0x66, ∀ digit : Fin 16, digit? (Char.ofNat code) = some digit ↔
      lowerChar (Char.ofNat code) = hexDigit digit := by decide +kernel
  have known (early : character.toNat ≤ 0x66) := all character.toNat early digit
  rw [Char.ofNat_toNat] at known
  constructor
  · intro read
    have code := code_of_digit? (Option.isSome_of_eq_some read)
    exact (known (by omega)).mp read
  · intro lowered
    have early := toNat_le_of_isLowerHex ((isLowerHex_iff _).mpr ⟨digit, lowered.symm⟩)
    exact (known (Text.toNat_le_of_lowerChar early)).mpr lowered

theorem mapM_digit?_eq_some_iff {text : List Char} {digits : List (Fin 16)} :
    text.mapM digit? = some digits ↔ text.map lowerChar = digitsText digits := by
  rw [Text.mapM_eq_some_iff, digitsText]
  induction text generalizing digits with
  | nil => cases digits <;> simp
  | cons first rest ih =>
    cases digits with
    | nil => simp
    | cons digit others => simp [digit?_eq_some_iff, ih]

/-! ## The line feed at the end -/

theorem dropLineFeed_cases (text : List Char) :
    text = dropLineFeed text ∨ text = dropLineFeed text ++ ['\n'] := by
  unfold dropLineFeed
  split
  next feed =>
    obtain ⟨front, rfl⟩ := List.getLast?_eq_some_iff.mp (eq_of_beq feed)
    exact .inr (by rw [List.dropLast_concat])
  next => exact .inl rfl

/-- A text without line feeds is left of itself and of itself with a line feed behind it. -/
theorem dropLineFeed_eq_iff {text kept : List Char} (clear : '\n' ∉ kept) :
    dropLineFeed text = kept ↔ text = kept ∨ text = kept ++ ['\n'] := by
  constructor
  · rintro rfl
    exact dropLineFeed_cases text
  · rintro (rfl | rfl)
    · rw [dropLineFeed, if_neg]
      intro feed
      exact clear (List.mem_of_getLast? (eq_of_beq feed))
    · simp [dropLineFeed]

theorem map_dropLineFeed (text : List Char) :
    (dropLineFeed text).map lowerChar = dropLineFeed (text.map lowerChar) := by
  have feed (character : Char) : lowerChar character = '\n' ↔ character = '\n' := by
    constructor
    · intro lowered
      have same : lowerChar character = character :=
        Text.lowerChar_eq_self (by rw [lowered]; decide)
      exact same.symm.trans lowered
    · rintro rfl
      decide +kernel
  have last : ((text.map lowerChar).getLast? == some '\n') = (text.getLast? == some '\n') := by
    rw [List.getLast?_map, Bool.eq_iff_iff, beq_iff_eq, beq_iff_eq, Option.map_eq_some_iff]
    simp [feed]
  rw [dropLineFeed, dropLineFeed, last]
  split
  · rw [List.map_dropLast]
  · rfl

/-! ## Accepted texts -/

/-- What is left of a text without the blanks around it and the separators, in lower case. -/
def cleaned (text : List Char) : List Char :=
  Text.lower ((Text.strip text).filter fun character => !isSeparator character)

/-- A text shows twelve digits: they are all that is left of it but a line feed at the end. -/
structure ShowsDigits (text digits : List Char) : Prop where
  twelve : digits.length = 12
  hexadecimal : ∀ character ∈ digits, isLowerHex character = true
  left : cleaned text = digits ∨ cleaned text = digits ++ ['\n']

theorem mapM_significant_eq_some_iff (text : List Char) (digits : List (Fin 16)) :
    (significant text).mapM digit? = some digits ↔
      cleaned text = digitsText digits ∨ cleaned text = digitsText digits ++ ['\n'] := by
  have feed : ∀ character ∈ digitsText digits ++ ['\n'], character.toNat ≤ 0x66 := by
    rw [List.forall_mem_append, List.forall_mem_singleton]
    exact ⟨toNat_le_of_mem_digitsText, by decide⟩
  have clear : '\n' ∉ digitsText digits :=
    fun member => absurd (isLowerHex_of_mem_digitsText member) (by decide)
  rw [cleaned, Text.lower_eq_iff_of_early toNat_le_of_mem_digitsText,
    Text.lower_eq_iff_of_early feed, ← dropLineFeed_eq_iff clear, ← map_dropLineFeed,
    mapM_digit?_eq_some_iff]
  rfl

theorem read?_eq_some_iff_showsDigits (text : List Char) (mac : MacAddress) :
    read? text = some mac ↔ ShowsDigits text (digitsText mac.digits) := by
  rw [read?_eq_some_iff, mapM_significant_eq_some_iff]
  refine ⟨fun left => ⟨?_, fun _ => isLowerHex_of_mem_digitsText, left⟩, fun shown => shown.left⟩
  rw [digitsText, List.length_map, mac.length_eq]

theorem ShowsDigits.exists_mac {text digits : List Char} (shown : ShowsDigits text digits) :
    ∃ mac, read? text = some mac ∧ digitsText mac.digits = digits := by
  obtain ⟨values, rfl⟩ := exists_digitsText_eq shown.hexadecimal
  have twelve : values.length = 12 := by simpa [digitsText] using shown.twelve
  exact ⟨⟨values, twelve⟩, (read?_eq_some_iff_showsDigits _ _).mpr shown, rfl⟩

/-! ## Written forms -/

/-- The first twelve digits in pairs with colons between them. -/
def sixPairs (digits : List Char) : List Char :=
  List.intercalate [':'] ((List.range 6).map fun pair => (digits.drop (2 * pair)).take 2)

theorem text_eq_sixPairs (mac : MacAddress) : mac.text = sixPairs (digitsText mac.digits) := by
  obtain ⟨digits, twelve⟩ := mac
  match digits, twelve with
  | [_, _, _, _, _, _, _, _, _, _, _, _], _ => rfl

/-- Whether a text is `count` pairs of lower-case digits with a colon behind each, and then one
pair more. -/
def isPairs : Nat → List Char → Bool
  | 0, [high, low] => isLowerHex high && isLowerHex low
  | count + 1, high :: low :: ':' :: rest =>
    isLowerHex high && isLowerHex low && isPairs count rest
  | _, _ => false

/-- Whether a text has the pattern that the address of a lease must have. -/
def hasPattern (text : List Char) : Bool := isPairs 5 text

theorem isPairs_pairsText {count : Nat} {digits : List (Fin 16)}
    (length : digits.length = 2 * count + 2) : isPairs count (pairsText digits) = true := by
  have lowerHex (digit : Fin 16) : isLowerHex (hexDigit digit) = true :=
    (isLowerHex_iff _).mpr ⟨digit, rfl⟩
  induction count generalizing digits with
  | zero =>
    match digits, length with
    | [high, low], _ => simp [pairsText, isPairs, lowerHex]
  | succ count ih =>
    match digits, length with
    | high :: low :: third :: rest, length =>
      have others : (third :: rest).length = 2 * count + 2 := by
        simp only [List.length_cons] at length ⊢
        omega
      simp [pairsText, isPairs, lowerHex, ih others]

theorem hasPattern_text (mac : MacAddress) : hasPattern mac.text = true :=
  isPairs_pairsText mac.length_eq

/-! ## Texts with the same digits -/

/-- The hexadecimal digits of a text in order, of either case. -/
def hexDigits (text : List Char) : List Char :=
  text.filter fun character => (digit? character).isSome

theorem filter_dropWhile {kept dropped : Char → Bool}
    (apart : ∀ character, dropped character = true → kept character = false) (text : List Char) :
    (text.dropWhile dropped).filter kept = text.filter kept := by
  induction text with
  | nil => rfl
  | cons first rest ih =>
    cases drop : dropped first with
    | false => simp [drop]
    | true => simp [drop, ih, apart first drop]

theorem hexDigits_strip (text : List Char) : hexDigits (Text.strip text) = hexDigits text := by
  have apart (character : Char) (blank : Text.isBlank character = true) :
      (digit? character).isSome = false := by
    by_contra digit
    rw [not_isBlank_of_digit? (Bool.not_eq_false _ ▸ digit)] at blank
    cases blank
  simp only [hexDigits, Text.strip, Text.stripEnd, List.filter_reverse,
    filter_dropWhile apart, List.reverse_reverse]

theorem hexDigits_filter (text : List Char) :
    hexDigits (text.filter fun character => !isSeparator character) = hexDigits text := by
  rw [hexDigits, List.filter_filter]
  refine List.filter_congr fun character _ => ?_
  cases separates : isSeparator character with
  | false => simp
  | true => simp [digit?_of_isSeparator separates]

theorem hexDigits_dropLineFeed (text : List Char) :
    hexDigits (dropLineFeed text) = hexDigits text := by
  rcases dropLineFeed_cases text with same | feed
  · rw [← same]
  · conv_rhs => rw [feed]
    rw [hexDigits, hexDigits, List.filter_append]
    exact (List.append_nil _).symm

/-- The digits of an accepted text are those of its address, in either case. -/
theorem lower_hexDigits {text : List Char} {mac : MacAddress} (read : read? text = some mac) :
    Text.lower (hexDigits text) = digitsText mac.digits := by
  have digits := (read?_eq_some_iff text mac).mp read
  have all : hexDigits (significant text) = significant text := by
    refine List.filter_eq_self.mpr fun character member => ?_
    have present : digit? character ∈ mac.digits.map some :=
      Text.mapM_eq_some_iff.mp digits ▸ List.mem_map_of_mem member
    obtain ⟨digit, -, known⟩ := List.mem_map.mp present
    rw [← known, Option.isSome_some]
  have counts : hexDigits text = significant text := by
    rw [← all, significant, hexDigits_dropLineFeed, hexDigits_filter, hexDigits_strip]
  rw [counts, Text.lower_eq_iff_of_early toNat_le_of_mem_digitsText]
  exact mapM_digit?_eq_some_iff.mp digits

theorem sameSpelled_iff (left right : List Char) :
    sameSpelled left right = true ↔
      (∃ mac, read? left = some mac) ∧ (∃ mac, read? right = some mac) ∧
        Text.lower (hexDigits left) = Text.lower (hexDigits right) := by
  unfold sameSpelled
  cases leftRead : read? left with
  | none => simp
  | some leftMac =>
    cases rightRead : read? right with
    | none => simp
    | some rightMac =>
      obtain ⟨leftDigits, leftLength⟩ := leftMac
      obtain ⟨rightDigits, rightLength⟩ := rightMac
      simp [lower_hexDigits leftRead, lower_hexDigits rightRead, digitsText_injective.eq_iff]

end MacAddress

/-! ## Readings -/

namespace Field

/-- The written form of the address that a text spells. -/
def canonicalMac (spelled : String) : Except Fault String :=
  (readMac (.text spelled)).map MacAddress.toString

theorem canonicalMac_eq (spelled : String) :
    canonicalMac spelled =
      match MacAddress.read? spelled.toList with
      | some mac => .ok mac.toString
      | none => .error (.value (.malformedMac (String.ofList (Text.quoted spelled.toList)))) := by
  rw [canonicalMac, readMac_text]
  cases MacAddress.read? spelled.toList <;> rfl

theorem canonicalMac_eq_ok_iff (spelled written : String) :
    canonicalMac spelled = .ok written ↔
      ∃ mac, MacAddress.read? spelled.toList = some mac ∧ mac.toString = written := by
  rw [canonicalMac_eq]
  cases MacAddress.read? spelled.toList <;> simp

theorem exists_canonicalMac_iff (spelled : String) :
    (∃ written, canonicalMac spelled = .ok written) ↔
      ∃ mac, MacAddress.read? spelled.toList = some mac := by
  simp [canonicalMac_eq_ok_iff]

theorem canonicalMac_eq_ok_iff_showsDigits (spelled written : String) :
    canonicalMac spelled = .ok written ↔
      ∃ digits, MacAddress.ShowsDigits spelled.toList digits ∧
        written = String.ofList (MacAddress.sixPairs digits) := by
  rw [canonicalMac_eq_ok_iff]
  constructor
  · rintro ⟨mac, read, rfl⟩
    refine ⟨_, (MacAddress.read?_eq_some_iff_showsDigits _ _).mp read, ?_⟩
    rw [MacAddress.toString, MacAddress.text_eq_sixPairs]
  · rintro ⟨digits, shown, rfl⟩
    obtain ⟨mac, read, rfl⟩ := shown.exists_mac
    exact ⟨mac, read, by rw [MacAddress.toString, MacAddress.text_eq_sixPairs]⟩

theorem canonicalMac_eq_error_iff (spelled : String) :
    canonicalMac spelled =
        .error (.value (.malformedMac (String.ofList (Text.quoted spelled.toList)))) ↔
      ¬ ∃ digits, MacAddress.ShowsDigits spelled.toList digits := by
  rw [canonicalMac_eq]
  cases read : MacAddress.read? spelled.toList with
  | none =>
    refine iff_of_true rfl ?_
    rintro ⟨digits, shown⟩
    obtain ⟨mac, known, -⟩ := shown.exists_mac
    rw [read] at known
    cases known
  | some mac =>
    refine iff_of_false (by simp) (not_not.mpr ⟨MacAddress.digitsText mac.digits, ?_⟩)
    exact (MacAddress.read?_eq_some_iff_showsDigits _ _).mp read

theorem canonicalMac_written {spelled written : String}
    (known : canonicalMac spelled = .ok written) :
    MacAddress.hasPattern written.toList = true ∧ canonicalMac written = .ok written := by
  obtain ⟨mac, -, rfl⟩ := (canonicalMac_eq_ok_iff _ _).mp known
  refine ⟨?_, (canonicalMac_eq_ok_iff _ _).mpr ⟨mac, mac.read?_toString, rfl⟩⟩
  rw [MacAddress.toString, String.toList_ofList]
  exact mac.hasPattern_text

theorem sameMac_text (one other : String) :
    sameMac (.text one) (.text other) =
      .ok (MacAddress.sameSpelled one.toList other.toList) := by
  rw [sameMac, readMac_text, readMac_text, MacAddress.sameSpelled]
  cases MacAddress.read? one.toList with
  | none => rfl
  | some mac => cases MacAddress.read? other.toList <;> rfl

theorem sameMac_text_eq_true_iff (one other : String) :
    sameMac (.text one) (.text other) = .ok true ↔
      (∃ written, canonicalMac one = .ok written) ∧
        (∃ written, canonicalMac other = .ok written) ∧
          Text.lower (MacAddress.hexDigits one.toList) =
            Text.lower (MacAddress.hexDigits other.toList) := by
  rw [sameMac_text, Except.ok.injEq, MacAddress.sameSpelled_iff, exists_canonicalMac_iff,
    exists_canonicalMac_iff]

theorem sameMac_text_comm (one other : String) :
    sameMac (.text one) (.text other) = sameMac (.text other) (.text one) := by
  rw [sameMac_text, sameMac_text, Except.ok.injEq, Bool.eq_iff_iff, MacAddress.sameSpelled_iff,
    MacAddress.sameSpelled_iff, and_left_comm, eq_comm]

/-- A text is accepted exactly if it shows twelve digits, and its written form is those in pairs;
any other text is faulted as a malformed address.  A written form has the pattern of addresses and
is its own written form.  Comparing two texts always gives an answer, which is yes exactly if both
are accepted and have the same digits up to letter case; so the comparison is symmetric and
transitive, and a text is the same as itself exactly if it is accepted. -/
theorem canonicalMac_is_normal_form :
    (∀ spelled written : String, canonicalMac spelled = .ok written ↔
      ∃ digits, MacAddress.ShowsDigits spelled.toList digits ∧
        written = String.ofList (MacAddress.sixPairs digits)) ∧
    (∀ spelled : String,
      canonicalMac spelled =
          .error (.value (.malformedMac (String.ofList (Text.quoted spelled.toList)))) ↔
        ¬ ∃ digits, MacAddress.ShowsDigits spelled.toList digits) ∧
    (∀ spelled written : String, canonicalMac spelled = .ok written →
      MacAddress.hasPattern written.toList = true ∧ canonicalMac written = .ok written) ∧
    (∀ one other : String, ∃ same, sameMac (.text one) (.text other) = .ok same ∧
      (same = true ↔
        (∃ written, canonicalMac one = .ok written) ∧
          (∃ written, canonicalMac other = .ok written) ∧
            Text.lower (MacAddress.hexDigits one.toList) =
              Text.lower (MacAddress.hexDigits other.toList))) ∧
    (∀ one other : String,
      sameMac (.text one) (.text other) = sameMac (.text other) (.text one)) ∧
    (∀ one middle other : String, sameMac (.text one) (.text middle) = .ok true →
      sameMac (.text middle) (.text other) = .ok true →
        sameMac (.text one) (.text other) = .ok true) ∧
    ∀ one : String, sameMac (.text one) (.text one) = .ok true ↔
      ∃ written, canonicalMac one = .ok written := by
  refine ⟨canonicalMac_eq_ok_iff_showsDigits, canonicalMac_eq_error_iff,
    fun spelled written => canonicalMac_written, fun one other => ⟨_, sameMac_text one other, ?_⟩,
    sameMac_text_comm, fun one middle other first second => ?_, fun one => ?_⟩
  · rw [← sameMac_text_eq_true_iff, sameMac_text, Except.ok.injEq]
  · rw [sameMac_text_eq_true_iff] at first second ⊢
    exact ⟨first.1, second.2.1, first.2.2.trans second.2.2⟩
  · rw [sameMac_text_eq_true_iff, and_iff_left rfl, and_self]

/-- A line feed that is uncovered behind twelve digits is passed over, and the text is the same
address as two other spellings of it. -/
theorem uncovered_line_feed_passed_over :
    let dotted := "\tAABB.CCDD.EEFF\n- "
    canonicalMac dotted = .ok "aa:bb:cc:dd:ee:ff" ∧
      canonicalMac "aa:bb:cc:dd:ee:ff" = .ok "aa:bb:cc:dd:ee:ff" ∧
      sameMac (.text "aa-bb-cc-dd-ee-ff") (.text dotted) = .ok true ∧
      sameMac (.text dotted) (.text "AaBbCcDdEeFf") = .ok true ∧
      sameMac (.text "aa-bb-cc-dd-ee-ff") (.text "AaBbCcDdEeFf") = .ok true := by
  intro dotted
  obtain ⟨accepts, -, kept, -, -, chain, -⟩ := canonicalMac_is_normal_form
  have digits : "aabbccddeeff".toList.all MacAddress.isLowerHex = true := by decide
  have shown : MacAddress.ShowsDigits dotted.toList "aabbccddeeff".toList :=
    ⟨rfl, List.all_eq_true.mp digits, .inr (by decide +kernel)⟩
  have written : canonicalMac dotted = .ok "aa:bb:cc:dd:ee:ff" :=
    (accepts dotted "aa:bb:cc:dd:ee:ff").mpr ⟨_, shown, by decide +kernel⟩
  have first : sameMac (.text "aa-bb-cc-dd-ee-ff") (.text dotted) = .ok true := by
    rw [sameMac_text]
    exact congrArg Except.ok (by decide +kernel)
  have second : sameMac (.text dotted) (.text "AaBbCcDdEeFf") = .ok true := by
    rw [sameMac_text]
    exact congrArg Except.ok (by decide +kernel)
  exact ⟨written, (kept _ _ written).2, first, second, chain _ _ _ first second⟩

end Field

end LeaseRoster
