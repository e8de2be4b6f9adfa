import LeaseRoster.Network.Subnet
import LeaseRoster.Proofs.WrittenNumbers
import Mathlib.Data.List.TakeWhile
import Mathlib.Data.Nat.Digits.Defs

/-!
# Written addresses

Every address has one written form, and reading this gives the address back: the four numbers
of version 4, or the groups of version 6, of which the longest stretch of zeros is left out
and found again by its length.  Of a scope this holds if it can stand behind an address, as
that of every address does that was read.
-/

namespace LeaseRoster

namespace IpAddress

open Text (ofDigits)

theorem pieces_joined {mark : Char} {parts : List (List Char)} (some_part : parts ≠ [])
    (clear : ∀ part ∈ parts, mark ∉ part) :
    Text.pieces (· == mark) (joined mark parts) = parts := by
  fun_induction joined mark parts with
  | case1 => exact absurd rfl some_part
  | case2 last => exact Text.pieces_of_not_mem (clear last (by simp))
  | case3 first rest more ih =>
    rw [Text.pieces_append_cons _ _ _ (by simp), Text.pieces_of_not_mem (clear first (by simp)),
      ih more fun part member => clear part (List.mem_cons_of_mem _ member)]
    rfl

theorem mem_joined {mark character : Char} {parts : List (List Char)}
    (member : character ∈ joined mark parts) :
    character = mark ∨ ∃ part ∈ parts, character ∈ part := by
  fun_induction joined mark parts with
  | case1 => cases member
  | case2 last => exact Or.inr ⟨last, by simp, member⟩
  | case3 first rest more ih =>
    rw [List.mem_append, List.mem_cons] at member
    rcases member with early | rfl | late
    · exact Or.inr ⟨first, by simp, early⟩
    · exact Or.inl rfl
    · rcases ih late with rfl | ⟨part, present, inside⟩
      · exact Or.inl rfl
      · exact Or.inr ⟨part, List.mem_cons_of_mem _ present, inside⟩

@[simp] theorem length_baseDigits (base count value : Nat) :
    (baseDigits base count value).length = count := by
  induction count generalizing value with
  | zero => rfl
  | succ count ih => simp [baseDigits, ih]

theorem lt_of_mem_baseDigits {base count value digit : Nat} (positive : 0 < base)
    (member : digit ∈ baseDigits base count value) : digit < base := by
  induction count generalizing value with
  | zero => cases member
  | succ count ih =>
    rw [baseDigits, List.mem_append, List.mem_singleton] at member
    rcases member with early | rfl
    · exact ih early
    · exact Nat.mod_lt value positive

theorem ofDigits_baseDigits (base count value : Nat) :
    ofDigits base (baseDigits base count value) = value % base ^ count := by
  induction count generalizing value with
  | zero => simp [baseDigits, ofDigits, Nat.mod_one]
  | succ count ih =>
    have split := ih (value / base)
    simp only [baseDigits, ofDigits, List.foldl_append, List.foldl_cons, List.foldl_nil]
      at split ⊢
    rw [split, pow_succ, Nat.mul_comm (base ^ count), Nat.mod_mul]
    ring

/-! ## Version 4 -/

theorem readOctet?_decimal {value : Nat} (small : value < 256) :
    readOctet? (Text.decimal value) = some value := by
  have all : ∀ octet < 256, readOctet? (Text.decimal octet) = some octet := by decide +kernel
  exact all value small

theorem readDotted?_text (bits : Fin addressCount4) :
    readDotted? (text (.v4 bits)) = some bits := by
  have small : ∀ octet ∈ baseDigits 256 4 bits, octet < 256 :=
    fun octet => lt_of_mem_baseDigits (by decide)
  have parts : (baseDigits 256 4 bits).map Text.decimal ≠ [] := by
    simp [baseDigits]
  rw [readDotted?, text, pieces_joined parts,
    Text.mapM_map_eq_some fun octet member => readOctet?_decimal (small octet member)]
  · simp only [Option.bind_eq_bind, Option.bind_some, length_baseDigits, beq_self_eq_true,
      if_true, ofDigits_baseDigits]
    exact congrArg some (Nat.mod_eq_of_lt bits.isLt)
  · intro part member
    obtain ⟨octet, present, rfl⟩ := List.mem_map.mp member
    exact Text.not_mem_decimal (by decide) octet

/-- A text with a colon has no dotted form. -/
theorem readDotted?_of_colon {text : List Char} (colon : ':' ∈ text) :
    readDotted? text = none := by
  obtain ⟨piece, present, inside⟩ : ∃ piece ∈ Text.pieces (· == '.') text, ':' ∈ piece :=
    Text.exists_piece_of_mem colon (by decide)
  have unread : readOctet? piece = none := by
    have mixed : piece.all Text.isAsciiDigit = false := by
      rw [← Bool.not_eq_true, List.all_eq_true]
      exact fun digits => absurd (digits ':' inside) (by decide)
    simp [readOctet?, mixed]
  rw [readDotted?, Text.mapM_eq_none_of_mem present unread]
  rfl

/-! ## Groups -/

/-- Whether numbers are groups of an address of version 6. -/
def AreGroups (groups : List Nat) : Prop := ∀ group ∈ groups, group < 0x10000

theorem hexValue?_digitChar {digit : Nat} (small : digit < 16) :
    Text.hexValue? digit.digitChar = some digit := by
  have all : ∀ digit < 16, Text.hexValue? digit.digitChar = some digit := by decide
  exact all digit small

theorem isSome_hexValue?_of_mem_groupText {group : Nat} {character : Char}
    (member : character ∈ groupText group) : (Text.hexValue? character).isSome = true := by
  obtain ⟨digits, -, bounded, written, -⟩ :=
    Text.exists_digits_toDigits 16 (by decide) group
  rw [groupText, written] at member
  obtain ⟨digit, present, rfl⟩ := List.mem_map.mp member
  rw [hexValue?_digitChar (bounded digit present)]
  rfl

theorem readGroup?_groupText {group : Nat} (small : group < 0x10000) :
    readGroup? (groupText group) = some group := by
  obtain ⟨digits, some_digits, bounded, written, denoted⟩ :=
    Text.exists_digits_toDigits 16 (by decide) group
  have short : (Nat.toDigits 16 group).length ≤ 4 :=
    Nat.toDigits_length 16 group 4 (by decide) small
  rw [written, List.length_map] at short
  rw [groupText, written, readGroup?, if_neg, Text.hexNumber?,
    Text.mapM_map_eq_some fun digit member => hexValue?_digitChar (bounded digit member),
    Option.map_some, denoted]
  simp [some_digits, short]

theorem groupText_ne_nil (group : Nat) : groupText group ≠ [] := by
  obtain ⟨digits, some_digits, -, written, -⟩ :=
    Text.exists_digits_toDigits 16 (by decide) group
  rw [groupText, written]
  simpa using some_digits

theorem mapM_readGroup? {groups : List Nat} (areGroups : AreGroups groups) :
    (groups.map groupText).mapM readGroup? = some groups :=
  Text.mapM_map_eq_some fun group member => readGroup?_groupText (areGroups group member)

/-- What a colon has in front of it or behind it: nothing, or the texts of some groups. -/
def sideParts (groups : List Nat) : List (List Char) :=
  if groups = [] then [[]] else groups.map groupText

/-- Some groups with colons between them. -/
def sideText (groups : List Nat) : List Char := joined ':' (groups.map groupText)

theorem mem_sideText {groups : List Nat} {character : Char}
    (member : character ∈ sideText groups) :
    character = ':' ∨ (Text.hexValue? character).isSome = true := by
  rcases mem_joined member with colon | ⟨part, present, inside⟩
  · exact Or.inl colon
  · obtain ⟨group, -, rfl⟩ := List.mem_map.mp present
    exact Or.inr (isSome_hexValue?_of_mem_groupText inside)

theorem colon_not_mem_groupText (group : Nat) : ':' ∉ groupText group := by
  intro member
  have digit := isSome_hexValue?_of_mem_groupText member
  exact absurd digit (by decide)

theorem pieces_sideText (groups : List Nat) :
    Text.pieces (· == ':') (sideText groups) = sideParts groups := by
  unfold sideText sideParts
  split
  next none => subst none; rfl
  next some_group =>
    refine pieces_joined (by simpa using some_group) fun part member => ?_
    obtain ⟨group, -, rfl⟩ := List.mem_map.mp member
    exact colon_not_mem_groupText group

theorem readSide?_sideParts {groups : List Nat} (areGroups : AreGroups groups) :
    readSide? (sideParts groups) = some groups := by
  unfold readSide? sideParts
  split
  next none => subst none; rfl
  next some_group =>
    obtain ⟨first, rest, rfl⟩ := List.exists_cons_of_ne_nil some_group
    rw [if_neg, mapM_readGroup? areGroups]
    simp [groupText_ne_nil]

/-- The parts of one side are one part and others that are not empty. -/
theorem exists_sideParts (groups : List Nat) :
    ∃ first others, sideParts groups = first :: others ∧ ∀ part ∈ others, part ≠ [] := by
  unfold sideParts
  split
  · exact ⟨[], [], rfl, by simp⟩
  next some_group =>
    obtain ⟨first, rest, rfl⟩ := List.exists_cons_of_ne_nil some_group
    refine ⟨groupText first, rest.map groupText, rfl, fun part member => ?_⟩
    obtain ⟨group, -, rfl⟩ := List.mem_map.mp member
    exact groupText_ne_nil group

/-! ## Stretches of zeros -/

theorem replicate_leadingZeros (groups : List Nat) :
    List.replicate (leadingZeros groups) 0 ++ groups.drop (leadingZeros groups) = groups := by
  induction groups with
  | nil => rfl
  | cons first rest ih =>
    unfold leadingZeros at ih ⊢
    by_cases zero : first = 0
    · subst zero
      simpa [List.replicate_succ] using ih
    · simp [zero]

/-- Where the longest stretch starts there are as many zeros. -/
theorem longestZeros_le (groups : List Nat) :
    (longestZeros groups).2 ≤ leadingZeros (groups.drop (longestZeros groups).1) := by
  let Holds (found : Nat × Nat) : Prop := found.2 ≤ leadingZeros (groups.drop found.1)
  refine List.foldlRecOn (motive := Holds) _ _ (Nat.zero_le _) fun found holds place _ => ?_
  dsimp only
  split
  · exact Nat.le_refl _
  · exact holds

/-- The longest stretch of zeros can be left out and put in again. -/
theorem take_replicate_drop (groups : List Nat) :
    groups.take (longestZeros groups).1 ++ List.replicate (longestZeros groups).2 0 ++
      groups.drop ((longestZeros groups).1 + (longestZeros groups).2) = groups := by
  have stretch := longestZeros_le groups
  generalize (longestZeros groups).1 = start at stretch ⊢
  generalize (longestZeros groups).2 = length at stretch ⊢
  have zeros := replicate_leadingZeros (groups.drop start)
  have front : (groups.drop start).take length = List.replicate length 0 := by
    rw [← zeros, List.take_append_of_le_length (by simpa using stretch), List.take_replicate,
      Nat.min_eq_left stretch]
  rw [← front, List.append_assoc, ← List.drop_drop, List.take_append_drop, List.take_append_drop]

/-! ## Version 6 -/

theorem expand?_of_parts {groups : List Nat} (areGroups : AreGroups groups)
    (eight : groups.length = 8) : expand? (groups.map groupText) = some groups := by
  have nonempty : ∀ part ∈ groups.map groupText, part ≠ [] := by
    intro part member
    obtain ⟨group, -, rfl⟩ := List.mem_map.mp member
    exact groupText_ne_nil group
  have read := mapM_readGroup? areGroups
  cases parts : groups.map groupText with
  | nil => simp_all
  | cons first others =>
    rw [parts] at nonempty read
    have closed : others.dropWhile (fun part => !part.isEmpty) = [] := by
      rw [List.dropWhile_eq_nil_iff]
      intro part member
      simpa using nonempty part (List.mem_cons_of_mem _ member)
    simp [expand?, closed, read, eight]

/-- The groups at both sides of a double colon are filled up with zeros. -/
theorem expand?_of_sides {left right : List Nat} (leftGroups : AreGroups left)
    (rightGroups : AreGroups right) (short : left.length + right.length < 8) :
    expand? (sideParts left ++ [] :: sideParts right) =
      some (left ++ List.replicate (8 - left.length - right.length) 0 ++ right) := by
  obtain ⟨first, others, parts, nonempty⟩ := exists_sideParts left
  obtain ⟨next, behind, rightParts, -⟩ := exists_sideParts right
  have leftRead := readSide?_sideParts leftGroups
  have rightRead := readSide?_sideParts rightGroups
  rw [parts] at leftRead
  have solid : ∀ part ∈ others, (fun part : List Char => !part.isEmpty) part = true := by
    intro part member
    simpa using nonempty part member
  have before : (others ++ [] :: sideParts right).takeWhile (fun part => !part.isEmpty) =
      others := by
    rw [List.takeWhile_append_of_pos solid]
    simp
  have after : (others ++ [] :: sideParts right).dropWhile (fun part => !part.isEmpty) =
      [] :: sideParts right := by
    rw [List.dropWhile_append_of_pos solid]
    simp
  have open_end : (sideParts right).isEmpty = false := by rw [rightParts]; rfl
  rw [parts, List.cons_append, expand?]
  simp only [before, after, open_end, leftRead, rightRead]
  simp [short]

theorem groupParts?_of_pointless {text : List Char} (point : '.' ∉ text)
    (many : 3 ≤ (Text.pieces (· == ':') text).length) :
    groupParts? text = some (Text.pieces (· == ':') text) := by
  unfold groupParts?
  dsimp only
  rw [if_neg (by omega), if_neg]
  intro dotted
  cases last : (Text.pieces (· == ':') text).getLast? with
  | none => simp [last] at dotted
  | some part =>
    have inside : '.' ∈ part := by simpa [last] using dotted
    exact point (Text.mem_of_mem_pieces (List.mem_of_getLast? last) inside)

/-- Groups are written out, or with a stretch of zeros left out between two colons. -/
theorem groupsText_cases (groups : List Nat) :
    groupsText groups = sideText groups ∨
      ∃ left count right, 2 ≤ count ∧ left ++ List.replicate count 0 ++ right = groups ∧
        groupsText groups = sideText left ++ ':' :: ':' :: sideText right := by
  have filled := take_replicate_drop groups
  unfold groupsText
  dsimp only
  split
  · exact Or.inl rfl
  next many => exact Or.inr ⟨_, _, _, Nat.not_lt.mp many, filled, rfl⟩

/-- The characters of groups are colons and hexadecimal digits. -/
theorem not_mem_groupsText {groups : List Nat} {character : Char} (noColon : character ≠ ':')
    (noDigit : Text.hexValue? character = none) : character ∉ groupsText groups := by
  have absent (side : List Nat) : character ∉ sideText side := by
    intro member
    rcases mem_sideText member with colon | digit
    · exact noColon colon
    · rw [noDigit] at digit
      cases digit
  rcases groupsText_cases groups with plain | ⟨left, count, right, -, -, doubled⟩
  · rw [plain]
    exact absent groups
  · rw [doubled]
    simp [absent, noColon]

theorem colon_mem_groupsText {groups : List Nat} (eight : groups.length = 8) :
    ':' ∈ groupsText groups := by
  rcases groupsText_cases groups with plain | ⟨left, count, right, -, -, doubled⟩
  · rw [plain]
    match groups, eight with
    | first :: second :: rest, _ => simp [sideText, joined]
  · rw [doubled]
    simp

/-- Groups are read back from what is written of them. -/
theorem readGroups?_groupsText {groups : List Nat} (areGroups : AreGroups groups)
    (eight : groups.length = 8) :
    readGroups? (groupsText groups) = some (ofDigits 0x10000 groups) := by
  have pointless : '.' ∉ groupsText groups := not_mem_groupsText (by decide) (by decide)
  have known := groupParts?_of_pointless pointless
  rcases groupsText_cases groups with plain | ⟨left, count, right, several, filled, doubled⟩
  · have parts : Text.pieces (· == ':') (groupsText groups) = groups.map groupText := by
      rw [plain, pieces_sideText, sideParts, if_neg]
      rintro rfl
      cases eight
    rw [parts] at known
    simp [readGroups?, known (by simp [eight]), expand?_of_parts areGroups eight]
  · subst filled
    have parts : Text.pieces (· == ':') (groupsText (left ++ List.replicate count 0 ++ right)) =
        sideParts left ++ [] :: sideParts right := by
      rw [doubled, Text.pieces_append_cons _ _ _ (by decide), pieces_sideText]
      simp [Text.pieces, pieces_sideText]
    simp only [List.length_append, List.length_replicate] at eight
    have leftGroups : AreGroups left := fun group member => areGroups group (by simp [member])
    have rightGroups : AreGroups right := fun group member => areGroups group (by simp [member])
    have sides := expand?_of_sides leftGroups rightGroups (by omega)
    have zeros : 8 - left.length - right.length = count := by omega
    have many : 3 ≤ (sideParts left ++ [] :: sideParts right).length := by
      obtain ⟨_, _, leftParts, -⟩ := exists_sideParts left
      obtain ⟨_, _, rightParts, -⟩ := exists_sideParts right
      rw [leftParts, rightParts]
      simp only [List.length_append, List.length_cons]
      omega
    rw [parts] at known
    simp only [readGroups?, known many, sides, zeros, Option.bind_eq_bind, Option.bind_some]

/-! ## Addresses -/

/-- An address has a scope that can stand behind it, or none. -/
def IsWritable : IpAddress → Prop
  | .v6 _ (some scope) => scope.toList ≠ [] ∧ '%' ∉ scope.toList ∧ '/' ∉ scope.toList
  | _ => True

theorem splitScope?_append {address : List Char} (plain : '%' ∉ address) {bits : Fin addressCount6}
    {scope : Option String} (writable : IsWritable (.v6 bits scope)) :
    splitScope? (address ++ ((scope.map fun name => '%' :: name.toList).getD [])) =
      some (address, scope) := by
  have kept : ∀ character ∈ address, (fun character : Char => character != '%') character = true := by
    intro character member
    rw [bne_iff_ne]
    rintro rfl
    exact plain member
  unfold splitScope?
  cases scope with
  | none =>
    simp only [Option.map_none, Option.getD_none, List.append_nil]
    rw [List.takeWhile_eq_self_iff.mpr kept, List.dropWhile_eq_nil_iff.mpr kept]
  | some name =>
    obtain ⟨some_name, percent, -⟩ := writable
    simp only [Option.map_some, Option.getD_some]
    rw [List.takeWhile_append_of_pos kept, List.dropWhile_append_of_pos kept]
    simp [some_name, percent]

theorem isWritable_of_splitScope? {text address : List Char} {scope : Option String}
    (slash : '/' ∉ text) (opened : splitScope? text = some (address, scope))
    (bits : Fin addressCount6) : IsWritable (.v6 bits scope) := by
  unfold splitScope? at opened
  split at opened
  · cases opened
    trivial
  next mark name split =>
    split at opened
    · cases opened
    next fine =>
      cases opened
      simp only [Bool.or_eq_true, List.isEmpty_iff, List.contains_eq_mem, decide_eq_true_eq,
        not_or] at fine
      refine ⟨by simpa using fine.1, by simpa using fine.2, ?_⟩
      rw [String.toList_ofList]
      intro member
      have behind : '/' ∈ text.dropWhile (· != '%') := split ▸ List.mem_cons_of_mem _ member
      exact slash (List.dropWhile_sublist _ |>.mem behind)

/-- The address that a text denotes can be written. -/
theorem isWritable_of_read? {text : List Char} {address : IpAddress}
    (read : read? text = some address) : address.IsWritable := by
  unfold read? at read
  split at read
  · unfold ofBits4? at read
    split at read
    · cases read
      trivial
    · cases read
  · unfold readSix? at read
    by_cases slash : '/' ∈ text
    · simp [slash] at read
    · simp only [List.contains_eq_mem, slash, decide_false, Bool.false_eq_true, if_false,
        Option.bind_eq_bind] at read
      obtain ⟨⟨before, scope⟩, opened, read⟩ := Option.bind_eq_some_iff.mp read
      obtain ⟨bits, -, read⟩ := Option.bind_eq_some_iff.mp read
      unfold ofBits6? at read
      split at read
      · cases read
        exact isWritable_of_splitScope? slash opened _
      · cases read

theorem slash_not_mem_text {address : IpAddress} (writable : address.IsWritable) :
    '/' ∉ address.text := by
  cases address with
  | v4 bits =>
    intro member
    rcases mem_joined member with mark | ⟨part, present, inside⟩
    · exact absurd mark (by decide)
    · obtain ⟨octet, digit, rfl⟩ := List.mem_map.mp present
      exact Text.not_mem_decimal (by decide) octet inside
  | v6 bits scope =>
    have front : '/' ∉ groupsText (baseDigits 0x10000 8 bits) :=
      not_mem_groupsText (by decide) (by decide)
    cases scope with
    | none => simpa [text] using front
    | some name =>
      obtain ⟨-, -, behind⟩ := writable
      simpa [text, front] using behind

theorem readSix?_text {bits : Fin addressCount6} {scope : Option String}
    (writable : IsWritable (.v6 bits scope)) :
    readSix? (text (.v6 bits scope)) = some (.v6 bits scope) := by
  have areGroups : AreGroups (baseDigits 0x10000 8 bits) :=
    fun group => lt_of_mem_baseDigits (by decide)
  have slash := slash_not_mem_text writable
  have plain : '%' ∉ groupsText (baseDigits 0x10000 8 bits) :=
    not_mem_groupsText (by decide) (by decide)
  have opened := splitScope?_append plain writable
  have whole : ofDigits 0x10000 (baseDigits 0x10000 8 bits) = bits := by
    rw [ofDigits_baseDigits]
    exact Nat.mod_eq_of_lt bits.isLt
  rw [← text] at opened
  simp [readSix?, slash, opened, readGroups?_groupsText areGroups, whole, ofBits6?]

/-- The written form of an address is read as the address. -/
theorem read?_text {address : IpAddress} (writable : address.IsWritable) :
    read? address.text = some address := by
  cases address with
  | v4 bits => simp [read?, readDotted?_text, ofBits4?]
  | v6 bits scope =>
    have colon : ':' ∈ text (.v6 bits scope) :=
      List.mem_append_left _ (colon_mem_groupsText (length_baseDigits _ _ _))
    rw [read?, readDotted?_of_colon colon]
    exact readSix?_text writable

end IpAddress

end LeaseRoster
