import LeaseRoster.Feed.Leases
import LeaseRoster.Proofs.MacSpellings
import Mathlib.Algebra.Order.Ring.Nat
import Mathlib.Data.List.Induction

/-!
# Lines of a lease file

Each line of a lease file makes one lease or none, and which one it makes shows on the line
alone.  So reading a lease file never stops, whatever its text is, and the leases of two
texts with a line break between them are those of the one and then those of the other.
-/

namespace LeaseRoster

namespace Text

/-! ## Lines and words -/

theorem lines_lineFeed_cons (rest : List Char) : lines ('\n' :: rest) = [] :: lines rest := by
  rw [lines.eq_3 '\n' rest (by rintro _ ⟨⟩), if_pos (by decide)]

theorem lines_cons_ne_nil (character : Char) (rest : List Char) :
    lines (character :: rest) ≠ [] := by
  unfold lines
  split
  case h_1 empty => cases empty
  case h_2 => simp
  case h_3 =>
    split
    · simp
    · cases lines _ <;> simp [consLine]

/-- A line break between two texts ends the last line of the first one.  Where no line of it
is open, there is a blank line instead. -/
theorem lines_append_lineFeed (first second : List Char) :
    ∃ blank, (blank = [] ∨ blank = [[]]) ∧
      lines (first ++ '\n' :: second) = lines first ++ blank ++ lines second := by
  fun_induction lines first with
  | case1 => exact ⟨[[]], Or.inr rfl, by simp [lines_lineFeed_cons]⟩
  | case2 rest ih =>
    obtain ⟨blank, kinds, split⟩ := ih
    refine ⟨blank, kinds, ?_⟩
    rw [List.cons_append, List.cons_append, lines, split]
    rfl
  | case3 character rest lone breaks ih =>
    cases rest with
    | nil =>
      by_cases carriage : character = '\r'
      · subst carriage
        exact ⟨[], Or.inl rfl, by simp [lines]⟩
      · refine ⟨[[]], Or.inr rfl, ?_⟩
        rw [List.cons_append, List.nil_append,
          lines.eq_3 _ _ fun _ same => (carriage same).elim, if_pos breaks,
          lines_lineFeed_cons]
        rfl
    | cons next others =>
      obtain ⟨blank, kinds, split⟩ := ih
      refine ⟨blank, kinds, ?_⟩
      have apart : ∀ tail, character = '\r' →
          (next :: others) ++ '\n' :: second = '\n' :: tail → False := by
        intro tail carriage same
        exact lone others carriage (by rw [(List.cons.inj same).1])
      rw [List.cons_append, lines.eq_3 _ _ apart, if_pos breaks, split]
      rfl
  | case4 character rest lone continues ih =>
    have carriage : character ≠ '\r' := by
      rintro rfl
      exact continues (by decide)
    obtain ⟨blank, kinds, split⟩ := ih
    rw [List.cons_append, lines.eq_3 _ _ fun _ same => (carriage same).elim, if_neg continues]
    cases rest with
    | nil =>
      -- The break ends the line that the character opens, so there is no blank one.
      exact ⟨[], Or.inl rfl, by simp [lines_lineFeed_cons, lines, consLine]⟩
    | cons next others =>
      refine ⟨blank, kinds, ?_⟩
      rw [split]
      cases opened : lines (next :: others) with
      | nil => exact (lines_cons_ne_nil next others opened).elim
      | cons line more => rfl

/-- A text without line breaks is a line of its own, unless it is empty. -/
theorem lines_of_unbroken {text : List Char}
    (unbroken : ∀ character ∈ text, isLineBreak character = false) :
    lines text = if text.isEmpty then [] else [text] := by
  induction text with
  | nil => rfl
  | cons first rest ih =>
    have continues : isLineBreak first = false := unbroken first (by simp)
    have carriage : first ≠ '\r' := by
      rintro rfl
      exact absurd continues (by decide)
    rw [lines.eq_3 _ _ fun _ same => (carriage same).elim, continues,
      ih fun character member => unbroken character (List.mem_cons_of_mem _ member)]
    cases rest <;> rfl

theorem words_cons_of_blank {character : Char} (blank : isBlank character = true)
    (rest : List Char) : words (character :: rest) = words rest :=
  words_append_cons [] rest blank

theorem words_append_blank {character : Char} (blank : isBlank character = true)
    (text : List Char) : words (text ++ [character]) = words text := by
  rw [words_append_cons text [] blank]
  exact List.append_nil _

theorem words_dropWhile_isBlank (text : List Char) :
    words (text.dropWhile isBlank) = words text := by
  induction text with
  | nil => rfl
  | cons first rest ih =>
    cases blank : isBlank first with
    | false => simp [blank]
    | true => simpa [blank, words_cons_of_blank blank] using ih

theorem words_stripEnd (text : List Char) : words (stripEnd text) = words text := by
  induction text using List.reverseRecOn with
  | nil => rfl
  | append_singleton rest last ih =>
    cases blank : isBlank last with
    | false => simp [stripEnd, blank]
    | true =>
      rw [words_append_blank blank, ← ih]
      simp [stripEnd, blank]

@[simp] theorem strip_nil : strip [] = [] := rfl

/-- The blanks around a text separate nothing. -/
@[simp] theorem words_strip (text : List Char) : words (strip text) = words text := by
  rw [strip, words_stripEnd, words_dropWhile_isBlank]

theorem ne_nil_of_mem_words {text word : List Char} (member : word ∈ words text) :
    word ≠ [] := by
  have kept := (List.mem_filter.mp member).2
  rintro rfl
  cases kept

end Text

namespace MacAddress

theorem length_significant_le (text : List Char) :
    (significant text).length ≤ text.length := by
  have kept := List.length_filter_le (fun character => !isSeparator character) (Text.strip text)
  have front := (List.dropWhile_sublist (l := text) Text.isBlank).length_le
  have back := (List.dropWhile_sublist
    (l := (text.dropWhile Text.isBlank).reverse) Text.isBlank).length_le
  have stripped : (Text.strip text).length ≤ text.length := by
    simp only [Text.strip, Text.stripEnd, List.length_reverse] at back ⊢
    omega
  unfold significant dropLineFeed
  split
  · rw [List.length_dropLast]
    omega
  · omega

/-- The spellings of addresses have at least twelve characters. -/
theorem length_of_read? {text : List Char} {mac : MacAddress}
    (read : read? text = some mac) : 12 ≤ text.length := by
  have length := Text.length_of_mapM ((read?_eq_some_iff text mac).mp read)
  have significant := length_significant_le text
  have twelve := mac.length_eq
  omega

end MacAddress

namespace LeaseEntry

/-! ## Entries -/

/-- When the lease of an entry ends. -/
def ending (entry : LeaseEntry) : Except Fault (Option Moment) :=
  if entry.expires = 0 then .ok none
  else (Moment.ofEpochSeconds entry.expires).map some

/-- The lease of an entry that ends at a given time. -/
def leaseUntil (entry : LeaseEntry) (expires : Option Moment) : Except Fault Lease :=
  match IpAddress.read? entry.address.toList with
  | some address =>
    .ok
      { mac := entry.mac, address
        hostname := if entry.hostname = "" then Lease.missingHostname else entry.hostname
        expires, clientId := entry.clientId }
  | none => .error (.invalid [⟨.notAddress, [.name "ip"]⟩])

/-- The lease that an entry of a lease file makes. -/
def lease (entry : LeaseEntry) : Except Fault Lease := entry.ending.bind entry.leaseUntil

theorem expiryOf_expires (entry : LeaseEntry) :
    Feed.expiryOf (.whole entry.expires) =
      entry.ending.map fun expires => (expires.map Datum.moment).getD .null := by
  by_cases never : entry.expires = 0
  · simp [Feed.expiryOf, ending, Datum.isTruthy, never]
    rfl
  · simp only [Feed.expiryOf, ending, Datum.isTruthy, never, Moment.ofTimestamp, bne_iff_ne,
      ne_eq, not_false_eq_true, if_true, if_false]
    cases Moment.ofEpochSeconds entry.expires <;> rfl

/-- The fields of a lease, read from an entry that gives its time as a moment. -/
theorem fields_written (entry : LeaseEntry) (expires : Option Moment) :
    (Lease.fields (.mapping
      [(.text "mac", .text entry.mac.toString), (.text "ip", .text entry.address),
       (.text "hostname", .text entry.hostname),
       (.text "expires", (expires.map Datum.moment).getD .null),
       (.text "client_id", (entry.clientId.map Datum.text).getD .null)])).result =
      entry.leaseUntil expires := by
  have mac : Field.mac (.text entry.mac.toString) = .accepted entry.mac := by
    rw [Field.mac, Field.readMac_toString]
    rfl
  have hostname : Lease.hostnameField (.text entry.hostname) =
      .accepted (if entry.hostname = "" then Lease.missingHostname else entry.hostname) := by
    by_cases empty : entry.hostname = ""
    · simp [Lease.hostnameField, Datum.isTruthy, empty]
    · simp [Lease.hostnameField, Datum.isTruthy, Field.text, empty]
  have ends : Field.optional Field.moment ((expires.map Datum.moment).getD .null) =
      .accepted expires := by
    cases expires <;> rfl
  have client : Field.optional Field.text ((entry.clientId.map Datum.text).getD .null) =
      .accepted entry.clientId := by
    cases entry.clientId <;> rfl
  have address : Field.address (.text entry.address) =
      .ofOption .notAddress (IpAddress.read? entry.address.toList) := rfl
  simp only [Lease.fields, Field.required, Field.withDefault, Datum.get?, Datum.untied,
    Datum.isText, List.find?_cons, String.reduceBEq, Option.map_some, mac, hostname, ends,
    client, address, Checked.inside, leaseUntil]
  cases IpAddress.read? entry.address.toList <;> rfl

theorem leaseOfEntry_toDatum (entry : LeaseEntry) :
    Feed.leaseOfEntry entry.toDatum = entry.lease := by
  have get : entry.toDatum.get "expires" = .whole entry.expires := rfl
  rw [Feed.leaseOfEntry, get, expiryOf_expires, lease]
  cases entry.ending with
  | error fault => rfl
  | ok expires => exact entry.fields_written expires

/-- Whatever keeps an entry from being a lease is a fault that only leaves it out. -/
theorem isSkippable_of_lease {entry : LeaseEntry} {fault : Fault}
    (fails : entry.lease = .error fault) : Feed.isSkippable fault = true := by
  cases ends : entry.ending with
  | error early =>
    rw [lease, ends] at fails
    cases fails
    simp only [ending, Moment.ofEpochSeconds, Moment.ofEpochMicros] at ends
    split at ends
    · cases ends
    · split at ends
      · split at ends
        · split at ends
          · cases ends
          · cases ends
            rfl
        · cases ends
          rfl
      · cases ends
        rfl
  | ok expires =>
    rw [lease, ends] at fails
    change entry.leaseUntil expires = _ at fails
    unfold leaseUntil at fails
    split at fails <;> cases fails
    rfl

/-- The notice about an entry that makes no lease. -/
def notices (entry : LeaseEntry) : List Notice :=
  match entry.lease with
  | .ok _ => []
  | .error fault => [.entrySkipped Feed.source entry.toDatum fault]

end LeaseEntry

namespace Feed

/-- The outcomes of two feeds, one after the other. -/
def Outcome.append (first second : Outcome) : Outcome :=
  ⟨first.leases ++ second.leases, first.notices ++ second.notices⟩

/-- What entries come to: each of them is a lease or a notice. -/
def outcomeOf (entries : List LeaseEntry) : Outcome :=
  ⟨entries.filterMap fun entry => entry.lease.toOption, entries.flatMap LeaseEntry.notices⟩

theorem outcomeOf_append (first second : List LeaseEntry) :
    outcomeOf (first ++ second) = (outcomeOf first).append (outcomeOf second) := by
  simp [outcomeOf, Outcome.append]

theorem leasesOfEntries_map_toDatum (entries : List LeaseEntry) :
    leasesOfEntries source (entries.map LeaseEntry.toDatum) = .ok (outcomeOf entries) := by
  induction entries with
  | nil => rfl
  | cons entry rest ih =>
    have made := entry.leaseOfEntry_toDatum
    rw [LeaseEntry.toDatum] at made
    rw [List.map_cons, LeaseEntry.toDatum, leasesOfEntries, made, ih]
    cases outcome : entry.lease with
    | ok lease => simp [Except.map, Outcome.withLease, outcomeOf, outcome, Except.toOption,
        LeaseEntry.notices]
    | error fault =>
      simp [LeaseEntry.isSkippable_of_lease outcome, Except.map, Outcome.withNotice, outcomeOf,
        outcome, Except.toOption, LeaseEntry.notices, LeaseEntry.toDatum]

/-! ## Lines -/

@[simp] theorem entryOfLine?_nil : entryOfLine? [] = none := rfl

/-- Lines are numbered for messages only: each one makes its entry by itself. -/
theorem entries_eq_filterMap (text : List Char) :
    entries text = (Text.lines text).filterMap fun line => entryOfLine? (Text.strip line) := by
  have numbers (number : Nat) (lines : List (List Char)) :
      ((numbered number lines).filterMap fun line => entryOfLine? line.2) =
        lines.filterMap fun line => entryOfLine? (Text.strip line) := by
    induction lines generalizing number with
    | nil => rfl
    | cons line rest ih =>
      rw [numbered]
      cases stripped : Text.strip line with
      | nil => simp [stripped, ih]
      | cons first others => simp [stripped, List.filterMap_cons, ih]
  exact numbers 1 (Text.lines text)

theorem entries_append_lineFeed (first second : List Char) :
    entries (first ++ '\n' :: second) = entries first ++ entries second := by
  obtain ⟨blank, rfl | rfl, split⟩ := Text.lines_append_lineFeed first second <;>
    simp [entries_eq_filterMap, split, List.filterMap_cons]

/-- A lease file is always read: what its entries come to is what it says. -/
theorem leasesOfText_eq (text : List Char) :
    leasesOfText text = .ok (outcomeOf (entries text)) := by
  have asks : asksForLeases leasesKey.toList = true := by decide
  rw [leasesOfText, parse, if_pos asks]
  exact leasesOfEntries_map_toDatum (entries text)

theorem leasesOfText_append_lineFeed (first second : List Char) :
    leasesOfText (first ++ '\n' :: second) =
      (leasesOfText first).bind fun left =>
        (leasesOfText second).map fun right => left.append right := by
  simp only [leasesOfText_eq, entries_append_lineFeed, outcomeOf_append]
  rfl

/-- The lease that a line makes. -/
def leaseOfLine? (line : List Char) : Option Lease :=
  (entryOfLine? (Text.strip line)).bind fun entry => entry.lease.toOption

theorem leases_outcomeOf_entries (text : List Char) :
    (outcomeOf (entries text)).leases = (Text.lines text).filterMap leaseOfLine? := by
  rw [outcomeOf, entries_eq_filterMap, List.filterMap_filterMap]
  rfl

/-! ## What a line says -/

/-- A time in seconds since the start of 1970, zero for never, is a moment or none. -/
def Ends (seconds : Int) (expires : Option Moment) : Prop :=
  if seconds = 0 then expires = none
  else ∃ moment, Moment.ofEpochSeconds seconds = .ok moment ∧ expires = some moment

/-- A line spells a lease: it does not bear the mark of the server, and its first four words
are when the lease ends, the hardware address, the internet address and the name of the
client. -/
structure Spells (line : List Char) (lease : Lease) : Prop where
  unmarked : serverMark.isPrefixOf (Text.strip line) = false
  worded : ∃ expiry mac address others seconds,
    Text.words line = expiry :: mac :: address :: lease.hostname.toList :: others ∧
    Text.readInt expiry = .ok seconds ∧ Ends seconds lease.expires ∧
    MacAddress.read? mac = some lease.mac ∧
    IpAddress.read? address = some lease.address ∧
    lease.clientId = others.head?.bind clientIdOf

theorem ending_eq_ok_iff (entry : LeaseEntry) (expires : Option Moment) :
    entry.ending = .ok expires ↔ Ends entry.expires expires := by
  unfold LeaseEntry.ending Ends
  split
  · simp [eq_comm]
  · cases Moment.ofEpochSeconds entry.expires with
    | error fault => simp [Except.map]
    | ok moment => simp [Except.map, eq_comm]

theorem entryOfFields?_eq_some_iff (fields : List (List Char)) (entry : LeaseEntry) :
    entryOfFields? fields = some entry ↔
      ∃ expiry mac others,
        fields = expiry :: mac :: entry.address.toList :: entry.hostname.toList :: others ∧
        Text.readInt expiry = .ok entry.expires ∧ MacAddress.read? mac = some entry.mac ∧
        entry.clientId = others.head?.bind clientIdOf := by
  constructor
  · intro made
    unfold entryOfFields? at made
    split at made
    · split at made
      next seconds hardware readSeconds readMac =>
        cases made
        exact ⟨_, _, _, by simp, readSeconds, readMac, rfl⟩
      next => cases made
    · cases made
  · rintro ⟨expiry, mac, others, rfl, readSeconds, readMac, client⟩
    simp [entryOfFields?, readSeconds, readMac, ← client]

theorem lease_eq_ok_iff {entry : LeaseEntry} (named : entry.hostname ≠ "") (lease : Lease) :
    entry.lease = .ok lease ↔
      Ends entry.expires lease.expires ∧ lease.mac = entry.mac ∧
        IpAddress.read? entry.address.toList = some lease.address ∧
        lease.hostname = entry.hostname ∧ lease.clientId = entry.clientId := by
  rw [← ending_eq_ok_iff]
  obtain ⟨mac, address, hostname, expires, clientId⟩ := lease
  cases ends : entry.ending with
  | error fault => simp [LeaseEntry.lease, ends, Except.bind]
  | ok moment =>
    cases entryAddress : IpAddress.read? entry.address.toList with
    | none => simp [LeaseEntry.lease, ends, Except.bind, LeaseEntry.leaseUntil, entryAddress]
    | some found =>
      simp only [LeaseEntry.lease, ends, Except.bind, LeaseEntry.leaseUntil, entryAddress,
        if_neg named, Except.ok.injEq, Lease.mk.injEq, Option.some.injEq]
      constructor
      · rintro ⟨rfl, rfl, rfl, rfl, rfl⟩
        exact ⟨rfl, rfl, rfl, rfl, rfl⟩
      · rintro ⟨rfl, rfl, rfl, rfl, rfl⟩
        exact ⟨rfl, rfl, rfl, rfl, rfl⟩

theorem Spells.hostname_ne_empty {line : List Char} {lease : Lease}
    (spelled : Spells line lease) : lease.hostname ≠ "" := by
  obtain ⟨expiry, mac, address, others, seconds, fields, -⟩ := spelled.worded
  have member : lease.hostname.toList ∈ Text.words line := by simp [fields]
  have written := Text.ne_nil_of_mem_words member
  rintro empty
  exact written (by rw [empty]; rfl)

theorem toOption_eq_some_iff {α : Type} (outcome : Except Fault α) (value : α) :
    outcome.toOption = some value ↔ outcome = .ok value := by
  cases outcome <;> simp [Except.toOption]

/-- A line makes the lease that it spells, and none if it spells none. -/
theorem leaseOfLine?_eq_some_iff (line : List Char) (lease : Lease) :
    leaseOfLine? line = some lease ↔ Spells line lease := by
  simp only [leaseOfLine?, entryOfLine?, Text.words_strip, Option.bind_eq_some_iff,
    toOption_eq_some_iff]
  cases marked : serverMark.isPrefixOf (Text.strip line) with
  | true =>
    constructor
    · rintro ⟨entry, made, -⟩
      cases made
    · intro spelled
      exact absurd spelled.unmarked (by simp [marked])
  | false =>
    simp only [Bool.false_eq_true, if_false, entryOfFields?_eq_some_iff]
    constructor
    · rintro ⟨entry, ⟨expiry, mac, others, fields, seconds, hardware, client⟩, made⟩
      have named : entry.hostname ≠ "" := by
        intro empty
        have member : entry.hostname.toList ∈ Text.words line := by simp [fields]
        exact Text.ne_nil_of_mem_words member (by rw [empty]; rfl)
      obtain ⟨ends, sameMac, address, sameName, sameClient⟩ :=
        (lease_eq_ok_iff named lease).mp made
      refine ⟨marked, expiry, mac, entry.address.toList, others, entry.expires, ?_, seconds,
        ends, ?_, address, ?_⟩
      · rw [sameName, fields]
      · rw [sameMac, hardware]
      · rw [sameClient, client]
    · intro spelled
      obtain ⟨expiry, mac, address, others, seconds, fields, readSeconds, ends, hardware,
        readAddress, client⟩ := spelled.worded
      let entry : LeaseEntry :=
        ⟨seconds, lease.mac, String.ofList address, lease.hostname, lease.clientId⟩
      refine ⟨entry, ⟨expiry, mac, others, ?_, readSeconds, hardware, client⟩,
        (lease_eq_ok_iff spelled.hostname_ne_empty lease).mpr ⟨ends, rfl, ?_, rfl, rfl⟩⟩
      · simp [entry, fields]
      · simpa [entry] using readAddress

/-! ## Lines that say nothing -/

/-- The number of a lease of version 6 in place of a hardware address, with or without the
mark of a temporary one. -/
def IsAssociation (field : List Char) : Prop :=
  ∃ number < 2 ^ 32, field = Text.decimal number ∨ field = 'T' :: Text.decimal number

theorem length_of_isAssociation {field : List Char} (association : IsAssociation field) :
    field.length ≤ 11 := by
  obtain ⟨number, small, written⟩ := association
  have digits : (Text.decimal number).length ≤ 10 :=
    (Nat.length_toDigits_le_iff (by decide) (by decide)).mpr (by omega)
  rcases written with rfl | rfl
  · omega
  · rw [List.length_cons]
    omega

/-- A line that says nothing: it names the server, has too few words, as a blank one has, or
gives the lease of an address of version 6. -/
inductive Silent (line : List Char) : Prop
  | server (marked : serverMark.isPrefixOf (Text.strip line) = true)
  | short (few : (Text.words line).length < 4)
  | versionSix (field : List Char) (second : (Text.words line)[1]? = some field)
      (association : IsAssociation field)

theorem Silent.not_spells {line : List Char} (silent : Silent line) (lease : Lease) :
    ¬ Spells line lease := by
  intro spelled
  obtain ⟨expiry, mac, address, others, seconds, fields, -, -, hardware, -, -⟩ :=
    spelled.worded
  cases silent with
  | server marked => exact absurd spelled.unmarked (by simp [marked])
  | short few =>
    rw [fields] at few
    simp at few
    omega
  | versionSix field second association =>
    rw [fields] at second
    obtain rfl : mac = field := Option.some.inj second
    have long := MacAddress.length_of_read? hardware
    have short := length_of_isAssociation association
    omega

/-- A line that spells no lease can stand between any others. -/
theorem leasesOfText_around {line : List Char}
    (unbroken : ∀ character ∈ line, Text.isLineBreak character = false)
    (mute : ∀ lease, ¬ Spells line lease) (first second : List Char) :
    (leasesOfText (first ++ '\n' :: (line ++ '\n' :: second))).map Outcome.leases =
      (leasesOfText (first ++ '\n' :: second)).map Outcome.leases := by
  have none : (Text.lines line).filterMap leaseOfLine? = [] := by
    rw [List.filterMap_eq_nil_iff]
    intro other member
    have same : other = line := by
      rw [Text.lines_of_unbroken unbroken] at member
      split at member
      · cases member
      · exact List.mem_singleton.mp member
    subst same
    exact Option.eq_none_iff_forall_ne_some.mpr fun lease made =>
      mute lease ((leaseOfLine?_eq_some_iff other lease).mp made)
  simp only [leasesOfText_eq, entries_append_lineFeed, outcomeOf_append, Outcome.append,
    leases_outcomeOf_entries, none, List.nil_append, Except.map]

/-- A lease file of any bytes is read.  Its leases are those that its lines spell, in their
order, and have a hardware address in its written form, an internet address and a name.  A
line break between two texts keeps apart the entries, the leases and the notices of both, so
a line that spells nothing changes nothing around it; lines that say nothing are such. -/
theorem leases_total_and_line_local :
    (∀ bytes, ∃ outcome, leasesOfBytes bytes = .ok outcome) ∧
    (∀ text, ∃ outcome, leasesOfText text = .ok outcome ∧
      outcome.leases = (Text.lines text).filterMap leaseOfLine? ∧
      (∀ line lease, leaseOfLine? line = some lease ↔ Spells line lease) ∧
      ∀ lease ∈ outcome.leases,
        Field.readMac (.text lease.mac.toString) = .ok lease.mac ∧
        (∃ field, IpAddress.read? field = some lease.address) ∧ lease.hostname ≠ "") ∧
    (∀ first second,
      entries (first ++ '\n' :: second) = entries first ++ entries second ∧
      leasesOfText (first ++ '\n' :: second) =
        (leasesOfText first).bind fun left =>
          (leasesOfText second).map fun right => left.append right) ∧
    (∀ line, (∀ character ∈ line, Text.isLineBreak character = false) →
      (∀ lease, ¬ Spells line lease) → ∀ first second,
        (leasesOfText (first ++ '\n' :: (line ++ '\n' :: second))).map Outcome.leases =
          (leasesOfText (first ++ '\n' :: second)).map Outcome.leases) ∧
    ∀ line, Silent line → ∀ lease, ¬ Spells line lease := by
  refine ⟨fun bytes => ⟨_, leasesOfText_eq _⟩, ?_, ?_, ?_, fun line => Silent.not_spells⟩
  · intro text
    refine ⟨_, leasesOfText_eq text, leases_outcomeOf_entries text, leaseOfLine?_eq_some_iff, ?_⟩
    intro lease member
    rw [leases_outcomeOf_entries, List.mem_filterMap] at member
    obtain ⟨line, -, made⟩ := member
    have spelled := (leaseOfLine?_eq_some_iff line lease).mp made
    obtain ⟨-, -, address, -, -, -, -, -, -, read, -⟩ := spelled.worded
    exact ⟨Field.readMac_toString lease.mac, ⟨address, read⟩, spelled.hostname_ne_empty⟩
  · exact fun first second =>
      ⟨entries_append_lineFeed first second, leasesOfText_append_lineFeed first second⟩
  · exact fun line unbroken mute => leasesOfText_around unbroken mute

/-- The association of a client of version six is passed over between two leases. -/
theorem leases_around_versionSix :
    (leasesOfText ("0 aa:bb:cc:dd:ee:01 10.0.0.1 one *".toList ++
        '\n' :: ("0 T4294967295 fd00::7 two *".toList ++
          '\n' :: "0 AABB.CCDD.EE02 10.0.0.2 *".toList))).map Outcome.leases =
      (leasesOfText ("0 aa:bb:cc:dd:ee:01 10.0.0.1 one *".toList ++
        '\n' :: "0 AABB.CCDD.EE02 10.0.0.2 *".toList)).map Outcome.leases := by
  have unbroken : "0 T4294967295 fd00::7 two *".toList.all (fun character =>
      Text.isLineBreak character == false) = true := by
    decide
  obtain ⟨-, -, -, around, silent⟩ := leases_total_and_line_local
  refine around _ ?_ (silent _ ?_) _ _
  · exact fun character member => eq_of_beq (List.all_eq_true.mp unbroken character member)
  · exact .versionSix "T4294967295".toList (by decide)
      ⟨4294967295, by decide, Or.inr (by decide)⟩

end Feed

end LeaseRoster
