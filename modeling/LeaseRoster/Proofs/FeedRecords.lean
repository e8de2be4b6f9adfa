import LeaseRoster.Feed.Watch
import LeaseRoster.Proofs.FeedLines
import LeaseRoster.Proofs.Numerals
import LeaseRoster.Proofs.StoredMoments

/-!
# Records of a lease file

The documented form of a lease file has one record on a line, its fields with spaces or tabs
between and around them, and lines that say nothing anywhere in between.  Reading such a file
gives back exactly its records, in their order: the fields come back as the words of the line,
a time in plain digits as its number, and an address from whatever spelling it has.
-/

namespace LeaseRoster

namespace Text

/-! ## Words on a line -/

/-- A text can stand between blanks as a word of its own. -/
structure IsWord (text : List Char) : Prop where
  nonempty : text ≠ []
  clear : ∀ character ∈ text, isBlank character = false

theorem eq_false_of_all {test : Char → Bool} {text : List Char}
    (clear : (text.all fun character => !test character) = true) :
    ∀ character ∈ text, test character = false := by
  intro character member
  simpa using List.all_eq_true.mp clear character member

/-- Whether a text consists of spaces and tabs. -/
def isGap (text : List Char) : Bool :=
  text.all fun character => character == ' ' || character == '\t'

/-- A line shows some words: there may be a gap in front of them and behind them, and there
is one between any two. -/
inductive Shows : List (List Char) → List Char → Prop
  | nothing {gap : List Char} (clear : isGap gap = true) : Shows [] gap
  | last {before word after : List Char} (front : isGap before = true)
      (back : isGap after = true) : Shows [word] (before ++ word ++ after)
  | next {before word rest : List Char} {second : List Char} {others : List (List Char)}
      {mark : Char} (front : isGap before = true) (apart : isGap [mark] = true)
      (shown : Shows (second :: others) rest) :
      Shows (word :: second :: others) (before ++ word ++ mark :: rest)

theorem isBlank_of_isGap {gap : List Char} (clear : isGap gap = true) :
    ∀ character ∈ gap, isBlank character = true ∧ isLineBreak character = false := by
  intro character member
  have either := List.all_eq_true.mp clear character member
  simp only [Bool.or_eq_true, beq_iff_eq] at either
  rcases either with rfl | rfl <;> decide

theorem isGap_cons (first : Char) (rest : List Char) :
    isGap (first :: rest) = (isGap [first] && isGap rest) := by
  simp [isGap]

theorem words_gap_append {gap : List Char} (clear : isGap gap = true) (rest : List Char) :
    words (gap ++ rest) = words rest := by
  induction gap with
  | nil => rfl
  | cons first others ih =>
    have blank := (isBlank_of_isGap clear first (by simp)).1
    rw [isGap_cons, Bool.and_eq_true] at clear
    rw [List.cons_append, words_cons_of_blank blank]
    exact ih clear.2

theorem words_of_isGap {gap : List Char} (clear : isGap gap = true) : words gap = [] := by
  have passed := words_gap_append clear []
  rwa [List.append_nil] at passed

theorem words_of_isWord {word : List Char} (isWord : IsWord word) : words word = [word] := by
  have nonempty : word.isEmpty = false := by simpa using isWord.nonempty
  simp [words, pieces_of_clear isWord.clear, nonempty]

/-- The words that a line shows are read off it. -/
theorem words_of_shows {shown : List (List Char)} {line : List Char}
    (shows : Shows shown line) (areWords : ∀ word ∈ shown, IsWord word) :
    words line = shown := by
  induction shows with
  | nothing clear => exact words_of_isGap clear
  | @last before word after front back =>
    have own : words word = [word] := words_of_isWord (areWords word (by simp))
    rw [List.append_assoc, words_gap_append front]
    cases after with
    | nil => rw [List.append_nil, own]
    | cons mark behind =>
      have blank := (isBlank_of_isGap back mark (by simp)).1
      rw [isGap_cons, Bool.and_eq_true] at back
      rw [words_append_cons word behind blank, own, words_of_isGap back.2, List.append_nil]
  | @next before word rest second others mark front apart _ ih =>
    have own : words word = [word] := words_of_isWord (areWords word (by simp))
    have blank := (isBlank_of_isGap apart mark (by simp)).1
    have behind := ih fun other member => areWords other (List.mem_cons_of_mem _ member)
    rw [List.append_assoc, words_gap_append front, words_append_cons word rest blank, own, behind]
    rfl

/-- Every line break is a blank, so no word holds one. -/
theorem isBlank_of_isLineBreak {character : Char} (breaks : isLineBreak character = true) :
    isBlank character = true := by
  simp only [isLineBreak, isBlank, Bool.or_eq_true, Bool.and_eq_true, decide_eq_true_eq,
    beq_iff_eq] at breaks ⊢
  omega

theorem IsWord.unbroken {word : List Char} (isWord : IsWord word) :
    ∀ character ∈ word, isLineBreak character = false := by
  intro character member
  have clear := isWord.clear character member
  by_contra breaks
  rw [isBlank_of_isLineBreak (by simpa using breaks)] at clear
  cases clear

theorem unbroken_of_shows {shown : List (List Char)} {line : List Char}
    (shows : Shows shown line) (areWords : ∀ word ∈ shown, IsWord word) :
    ∀ character ∈ line, isLineBreak character = false := by
  induction shows with
  | nothing clear => exact fun character member => (isBlank_of_isGap clear character member).2
  | @last before word after front back =>
    intro character member
    rw [List.append_assoc, List.mem_append, List.mem_append] at member
    rcases member with early | own | late
    · exact (isBlank_of_isGap front character early).2
    · exact (areWords word (by simp)).unbroken character own
    · exact (isBlank_of_isGap back character late).2
  | @next before word rest second others mark front apart _ ih =>
    have behind := ih fun other member => areWords other (List.mem_cons_of_mem _ member)
    intro character member
    rw [List.append_assoc, List.mem_append, List.mem_append, List.mem_cons] at member
    rcases member with early | own | rfl | late
    · exact (isBlank_of_isGap front character early).2
    · exact (areWords word (by simp)).unbroken character own
    · exact (isBlank_of_isGap apart character (by simp)).2
    · exact behind character late

end Text

namespace Moment

theorem epochMicros_add_lt {seconds : Nat} (bound : seconds ≤ 253402300799) :
    epochMicros + seconds * microsPerSecond < wallLimit := by
  simp only [epochMicros, wallLimit, Calendar.dayLimit, microsPerDay, microsPerSecond]
  omega

theorem of?_natCast {wall : Nat} (inRange : wall < wallLimit) (offset : Option Int) :
    of? wall offset = some ⟨wall, offset, inRange⟩ :=
  of?_wall ⟨wall, offset, inRange⟩

/-- Every second from the start of 1970 to the end of the calendar is a moment. -/
theorem ofEpochSeconds_natCast {seconds : Nat} (bound : seconds ≤ 253402300799) :
    ofEpochSeconds seconds =
      .ok ⟨epochMicros + seconds * microsPerSecond, some 0, epochMicros_add_lt bound⟩ := by
  have fits : fitsWord (seconds : Int) = true := by
    rw [fitsWord_iff, wordLimit]
    omega
  have whole : Int.fdiv ((seconds : Int) * microsPerSecond) microsPerSecond = seconds :=
    Int.mul_fdiv_cancel _ (by decide)
  have known : Calendar.inClockYears seconds = true := by
    have early : Calendar.daysToYear (1900 - 2147483648) * 86400 ≤ 0 := by decide
    have late : 253402300800 ≤ Calendar.daysToYear (1900 + 2147483648) * 86400 := by decide
    simp only [Calendar.inClockYears, Bool.and_eq_true, decide_eq_true_eq]
    omega
  have wall : (epochMicros : Int) + (seconds : Int) * microsPerSecond =
      ((epochMicros + seconds * microsPerSecond : Nat) : Int) := by
    push_cast
    rfl
  rw [ofEpochSeconds, if_pos fits, ofEpochMicros, whole, if_pos known, wall,
    of?_natCast (epochMicros_add_lt bound)]

end Moment

namespace Feed

/-! ## Entries by words -/

/-- A line that names the server makes no entry from its words either. -/
theorem entryOfFields?_server (others : List (List Char)) :
    entryOfFields? ("duid".toList :: others) = none := by
  have unreadable : ∀ number, Text.readInt "duid".toList ≠ .ok number := by
    have nothing : Text.digitRun false "duid".toList = some ([], "duid".toList) := by decide
    have unsigned : Text.splitSign ("duid".toList.dropWhile Text.isNumeralBlank) =
        (false, "duid".toList) := by decide
    intro number read
    simp only [Text.readInt, unsigned, nothing] at read
    rw [if_pos (by decide)] at read
    cases read
  unfold entryOfFields?
  split
  next expiry mac address hostname rest same =>
    obtain ⟨rfl, -⟩ := List.cons.inj same
    split
    next number found read spelled => exact (unreadable number read).elim
    next => rfl
  next => rfl

/-- What a line says depends on its words only. -/
theorem entryOfLine?_strip (line : List Char) :
    entryOfLine? (Text.strip line) = entryOfFields? (Text.words line) := by
  unfold entryOfLine?
  rw [Text.words_strip]
  split
  next marked =>
    obtain ⟨rest, same⟩ := List.isPrefixOf_iff_prefix.mp marked
    have split : serverMark ++ rest = "duid".toList ++ ' ' :: rest := by
      have mark : serverMark = "duid".toList ++ [' '] := by decide
      rw [mark, List.append_assoc]
      rfl
    have first : Text.words "duid".toList = ["duid".toList] := by decide
    rw [← Text.words_strip, ← same, split, Text.words_append_cons _ _ (by decide), first]
    exact (entryOfFields?_server _).symm
  next => rfl

theorem entries_of_unbroken {line : List Char}
    (unbroken : ∀ character ∈ line, Text.isLineBreak character = false) :
    entries line = (entryOfFields? (Text.words line)).toList := by
  rw [entries_eq_filterMap, Text.lines_of_unbroken unbroken]
  cases line with
  | nil => rfl
  | cons first rest =>
    rw [if_neg (by simp), ← entryOfLine?_strip]
    cases made : entryOfLine? (Text.strip (first :: rest)) <;> simp [made]

/-- The entries of lines with line feeds between them are those of each line. -/
theorem entries_intercalate (lines : List (List Char)) :
    entries (List.intercalate ['\n'] lines) = lines.flatMap entries := by
  induction lines with
  | nil => rfl
  | cons line rest ih =>
    cases rest with
    | nil => simp
    | cons second others =>
      rw [List.intercalate_cons_cons, List.append_assoc, List.singleton_append,
        entries_append_lineFeed, ih]
      rfl

theorem Silent.entries_eq_nil {line : List Char} (silent : Silent line)
    (unbroken : ∀ character ∈ line, Text.isLineBreak character = false) : entries line = [] := by
  rw [entries_of_unbroken unbroken]
  cases made : entryOfFields? (Text.words line) with
  | none => rfl
  | some entry =>
    obtain ⟨expiry, mac, others, fields, -, hardware, -⟩ :=
      (entryOfFields?_eq_some_iff _ entry).mp made
    cases silent with
    | server marked =>
      rw [← entryOfLine?_strip, entryOfLine?, if_pos marked] at made
      cases made
    | short few =>
      rw [fields] at few
      simp at few
      omega
    | versionSix field second association =>
      rw [fields] at second
      obtain rfl : mac = field := Option.some.inj second
      have long := MacAddress.length_of_read? hardware
      have short := length_of_isAssociation association
      omega

end Feed

/-! ## Records -/

/-- A record of a lease file.  Its addresses come with a spelling of each, and the identifier
of the client is empty where there is none. -/
structure LeaseRecord where
  seconds : Nat
  inCalendar : seconds ≤ 253402300799
  mac : MacAddress
  spelledMac : List Char
  readMac : MacAddress.read? spelledMac = some mac
  clearMac : ∀ character ∈ spelledMac, Text.isBlank character = false
  address : IpAddress
  spelledAddress : List Char
  readAddress : IpAddress.read? spelledAddress = some address
  clearAddress : ∀ character ∈ spelledAddress, Text.isBlank character = false
  hostname : List Char
  isWord_hostname : Text.IsWord hostname
  client : List Char
  clearClient : ∀ character ∈ client, Text.isBlank character = false

namespace LeaseRecord

/-- What stands on the line of a record. -/
def fields (record : LeaseRecord) : List (List Char) :=
  [Text.decimal record.seconds, record.spelledMac, record.spelledAddress, record.hostname] ++
    if record.client = [] then [] else [record.client]

/-- When the lease of a record ends: its seconds are counted from the start of 1970 in
universal time, and zero stands for never. -/
def ending (record : LeaseRecord) : Option Moment :=
  if record.seconds = 0 then none
  else
    some ⟨Moment.epochMicros + record.seconds * microsPerSecond, some 0,
      Moment.epochMicros_add_lt record.inCalendar⟩

/-- The identifier of the client; an asterisk stands for a missing one. -/
def clientId (record : LeaseRecord) : Option String :=
  if record.client = [] ∨ record.client = ['*'] then none
  else some (String.ofList record.client)

/-- The lease that a record is about. -/
def lease (record : LeaseRecord) : Lease where
  mac := record.mac
  address := record.address
  hostname := String.ofList record.hostname
  expires := record.ending
  clientId := record.clientId

/-- The entry that the line of a record makes. -/
def entry (record : LeaseRecord) : LeaseEntry where
  expires := record.seconds
  mac := record.mac
  address := String.ofList record.spelledAddress
  hostname := String.ofList record.hostname
  clientId := record.clientId

variable (record : LeaseRecord)

theorem areWords_fields : ∀ word ∈ record.fields, Text.IsWord word := by
  have seconds : Text.IsWord (Text.decimal record.seconds) := by
    refine ⟨?_, fun character member => ?_⟩
    · obtain ⟨digits, nonempty, -, written, -⟩ := Text.exists_digits_decimal record.seconds
      simpa [written] using nonempty
    · have digit := Text.isAsciiDigit_of_mem_decimal member
      simp only [Text.isAsciiDigit, Bool.and_eq_true, decide_eq_true_eq] at digit
      simp only [Text.isBlank, Bool.or_eq_false_iff, Bool.and_eq_false_iff,
        decide_eq_false_iff_not, beq_eq_false_iff_ne]
      omega
  have mac : Text.IsWord record.spelledMac := by
    refine ⟨?_, record.clearMac⟩
    intro empty
    have long := MacAddress.length_of_read? record.readMac
    simp [empty] at long
  have address : Text.IsWord record.spelledAddress := by
    refine ⟨?_, record.clearAddress⟩
    intro empty
    have unreadable : IpAddress.read? [] = none := by decide
    have read := record.readAddress
    rw [empty, unreadable] at read
    cases read
  intro word member
  simp only [fields, List.cons_append, List.nil_append, List.mem_cons] at member
  rcases member with rfl | rfl | rfl | rfl | identified
  · exact seconds
  · exact mac
  · exact address
  · exact record.isWord_hostname
  · split at identified
    · cases identified
    next present =>
      rw [List.mem_singleton.mp identified]
      exact ⟨present, record.clearClient⟩

theorem readInt_seconds : Text.readInt (Text.decimal record.seconds) = .ok record.seconds := by
  refine Text.readInt_decimal ?_
  have digits : (Text.decimal record.seconds).length ≤ 12 :=
    (Nat.length_toDigits_le_iff (by decide) (by decide)).mpr (by
      have bound := record.inCalendar
      omega)
  exact digits.trans (by decide)

/-- The fields of a record make its entry. -/
theorem entryOfFields?_fields : Feed.entryOfFields? record.fields = some record.entry := by
  rw [Feed.entryOfFields?_eq_some_iff]
  refine ⟨Text.decimal record.seconds, record.spelledMac,
    if record.client = [] then [] else [record.client], by simp [fields, entry],
    record.readInt_seconds, record.readMac, ?_⟩
  by_cases absent : record.client = []
  · simp [entry, clientId, absent]
  · simp [entry, clientId, absent, Feed.clientIdOf]

theorem ends_ending : Feed.Ends record.seconds record.ending := by
  unfold Feed.Ends ending
  by_cases never : record.seconds = 0
  · simp [never]
  · rw [if_neg (by omega), if_neg never]
    exact ⟨_, Moment.ofEpochSeconds_natCast record.inCalendar, rfl⟩

theorem lease_entry : record.entry.lease = .ok record.lease := by
  have named : record.entry.hostname ≠ "" := by
    intro empty
    apply record.isWord_hostname.nonempty
    have same := congrArg String.toList empty
    simpa [entry] using same
  rw [Feed.lease_eq_ok_iff named]
  refine ⟨record.ends_ending, rfl, ?_, rfl, rfl⟩
  rw [entry, String.toList_ofList]
  exact record.readAddress

end LeaseRecord

namespace Feed

open Text (Shows)

/-- Some lines hold some records: each record has a line that shows its fields, in the order
of the records, and every other line says nothing. -/
inductive Listed : List LeaseRecord → List (List Char) → Prop
  | nil : Listed [] []
  | record {record : LeaseRecord} {line : List Char} {records : List LeaseRecord}
      {lines : List (List Char)} (shows : Shows record.fields line)
      (others : Listed records lines) : Listed (record :: records) (line :: lines)
  | silent {line : List Char} {records : List LeaseRecord} {lines : List (List Char)}
      (unbroken : ∀ character ∈ line, Text.isLineBreak character = false)
      (silent : Silent line) (others : Listed records lines) : Listed records (line :: lines)

theorem entries_of_shows {record : LeaseRecord} {line : List Char}
    (shows : Shows record.fields line) : entries line = [record.entry] := by
  have areWords := record.areWords_fields
  rw [entries_of_unbroken (Text.unbroken_of_shows shows areWords),
    Text.words_of_shows shows areWords, record.entryOfFields?_fields]
  rfl

theorem Listed.flatMap_entries {records : List LeaseRecord} {lines : List (List Char)}
    (listed : Listed records lines) :
    lines.flatMap Feed.entries = records.map LeaseRecord.entry := by
  induction listed with
  | nil => rfl
  | record shows _ ih => rw [List.flatMap_cons, entries_of_shows shows, ih]; rfl
  | silent unbroken silent _ ih => rw [List.flatMap_cons, silent.entries_eq_nil unbroken, ih]; rfl

theorem outcomeOf_map_entry (records : List LeaseRecord) :
    outcomeOf (records.map LeaseRecord.entry) = ⟨records.map LeaseRecord.lease, []⟩ := by
  induction records with
  | nil => rfl
  | cons record rest ih =>
    have kept : ([record.entry].filterMap fun entry => entry.lease.toOption) = [record.lease] := by
      simp [record.lease_entry, Except.toOption]
    have quiet : record.entry.notices = [] := by
      simp [LeaseEntry.notices, record.lease_entry]
    rw [List.map_cons, ← List.singleton_append, outcomeOf_append, ih]
    simp [outcomeOf, Outcome.append, record.lease_entry, Except.toOption, quiet]

/-- Lines that hold records are read back as these records, in their order and with nothing
between them, and no notice is given; so is a file that holds these lines. -/
theorem leasesOfText_of_listed {records : List LeaseRecord} {lines : List (List Char)}
    (listed : Listed records lines) :
    let text := List.intercalate ['\n'] lines
    entries text = records.map LeaseRecord.entry ∧
    leasesOfText text = .ok ⟨records.map LeaseRecord.lease, []⟩ ∧
    ∀ path changed bytes, Text.unifyNewlines (Text.decodeLenient bytes) = text →
      readLeases path (.file changed bytes) (.file changed bytes) =
        .ok ⟨records.map LeaseRecord.lease, []⟩ := by
  intro text
  have made : entries text = records.map LeaseRecord.entry := by
    rw [entries_intercalate, listed.flatMap_entries]
  have read : leasesOfText text = .ok ⟨records.map LeaseRecord.lease, []⟩ := by
    rw [leasesOfText_eq, made, outcomeOf_map_entry]
  refine ⟨made, read, fun path changed bytes held => ?_⟩
  change leasesOfBytes bytes = _
  rw [leasesOfBytes, held, read]

private def named : LeaseRecord where
  seconds := 1714564800
  inCalendar := by decide
  mac := ⟨[10, 10, 11, 11, 12, 12, 13, 13, 14, 14, 0, 1], rfl⟩
  spelledMac := "AABB.CCDD.EE01".toList
  readMac := by decide +kernel
  clearMac := Text.eq_false_of_all (by decide)
  address := .v4 167772161
  spelledAddress := "10.0.0.1".toList
  readAddress := by decide +kernel
  clearAddress := Text.eq_false_of_all (by decide)
  hostname := "one".toList
  isWord_hostname := ⟨by decide, Text.eq_false_of_all (by decide)⟩
  client := "01:aa".toList
  clearClient := Text.eq_false_of_all (by decide)

private def nameless : LeaseRecord where
  seconds := 0
  inCalendar := by decide
  mac := ⟨[10, 10, 11, 11, 12, 12, 13, 13, 14, 14, 0, 2], rfl⟩
  spelledMac := "aa-bb-cc-dd-ee-02".toList
  readMac := by decide +kernel
  clearMac := Text.eq_false_of_all (by decide)
  address := .v6 338288524927261089654018896841347694594 (some "eth0")
  spelledAddress := "fe80::2%eth0".toList
  readAddress := by decide +kernel
  clearAddress := Text.eq_false_of_all (by decide)
  hostname := "*".toList
  isWord_hostname := ⟨by decide, Text.eq_false_of_all (by decide)⟩
  client := []
  clearClient := Text.eq_false_of_all (by decide)

private def mixedLines : List (List Char) :=
  ["1714564800 AABB.CCDD.EE01 10.0.0.1\tone 01:aa".toList, "duid 00:01:00:01 a b c".toList,
    " \t".toList, " 0\t\taa-bb-cc-dd-ee-02 fe80::2%eth0  *\t".toList,
    "0 aa:bb:cc:dd:ee:03 10.0.0.3".toList]

/-- Tabs, an asterisk, a missing identifier, the mark of the server, a blank line and a line
that breaks off leave two records as they are. -/
theorem two_records_among_silent_lines :
    Listed [named, nameless] mixedLines ∧
      leasesOfText ("1714564800 AABB.CCDD.EE01 10.0.0.1\tone 01:aa\nduid 00:01:00:01 a b c\n" ++
        " \t\n 0\t\taa-bb-cc-dd-ee-02 fe80::2%eth0  *\t\n" ++
        "0 aa:bb:cc:dd:ee:03 10.0.0.3").toList =
          .ok ⟨[⟨⟨[10, 10, 11, 11, 12, 12, 13, 13, 14, 14, 0, 1], rfl⟩, .v4 167772161, "one",
              some ⟨63850161600000000, some 0, by decide⟩, some "01:aa"⟩,
            ⟨⟨[10, 10, 11, 11, 12, 12, 13, 13, 14, 14, 0, 2], rfl⟩,
              .v6 338288524927261089654018896841347694594 (some "eth0"), "*", none, none⟩],
            []⟩ := by
  have namedFields : named.fields = ["1714564800".toList, "AABB.CCDD.EE01".toList,
      "10.0.0.1".toList, "one".toList, "01:aa".toList] := by decide +kernel
  have namelessFields : nameless.fields = ["0".toList, "aa-bb-cc-dd-ee-02".toList,
      "fe80::2%eth0".toList, "*".toList] := by decide +kernel
  have namedShown : Shows named.fields
      "1714564800 AABB.CCDD.EE01 10.0.0.1\tone 01:aa".toList := by
    rw [namedFields]
    exact @Shows.next [] "1714564800".toList _ _ _ ' ' rfl rfl
      (@Shows.next [] "AABB.CCDD.EE01".toList _ _ _ ' ' rfl rfl
        (@Shows.next [] "10.0.0.1".toList _ _ _ '\t' rfl rfl
          (@Shows.next [] "one".toList _ _ _ ' ' rfl rfl
            (@Shows.last [] "01:aa".toList [] rfl rfl))))
  have namelessShown :
      Shows nameless.fields " 0\t\taa-bb-cc-dd-ee-02 fe80::2%eth0  *\t".toList := by
    rw [namelessFields]
    exact @Shows.next [' '] "0".toList _ _ _ '\t' rfl rfl
      (@Shows.next ['\t'] "aa-bb-cc-dd-ee-02".toList _ _ _ ' ' rfl rfl
        (@Shows.next [] "fe80::2%eth0".toList _ _ _ ' ' rfl rfl
          (@Shows.last [' '] "*".toList ['\t'] rfl rfl)))
  have listed : Listed [named, nameless] mixedLines :=
    .record namedShown <|
      @Listed.silent "duid 00:01:00:01 a b c".toList _ _
          (Text.eq_false_of_all (by decide)) (.server (by decide +kernel)) <|
        @Listed.silent " \t".toList _ _ (Text.eq_false_of_all (by decide))
            (.short (by decide +kernel)) <|
          .record namelessShown <|
            @Listed.silent "0 aa:bb:cc:dd:ee:03 10.0.0.3".toList _ _
              (Text.eq_false_of_all (by decide)) (.short (by decide +kernel)) .nil
  have text : ("1714564800 AABB.CCDD.EE01 10.0.0.1\tone 01:aa\nduid 00:01:00:01 a b c\n" ++
      " \t\n 0\t\taa-bb-cc-dd-ee-02 fe80::2%eth0  *\t\n" ++
      "0 aa:bb:cc:dd:ee:03 10.0.0.3").toList = List.intercalate ['\n'] mixedLines := by
    decide +kernel
  have leases : [named, nameless].map LeaseRecord.lease =
      [⟨⟨[10, 10, 11, 11, 12, 12, 13, 13, 14, 14, 0, 1], rfl⟩, .v4 167772161, "one",
          some ⟨63850161600000000, some 0, by decide⟩, some "01:aa"⟩,
        ⟨⟨[10, 10, 11, 11, 12, 12, 13, 13, 14, 14, 0, 2], rfl⟩,
          .v6 338288524927261089654018896841347694594 (some "eth0"), "*", none, none⟩] := by
    decide +kernel
  refine ⟨listed, ?_⟩
  rw [text, ← leases]
  exact (leasesOfText_of_listed listed).2.1

end Feed

end LeaseRoster
