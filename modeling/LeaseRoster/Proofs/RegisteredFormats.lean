import LeaseRoster.Feed.Formats
import LeaseRoster.Proofs.LoweredTexts

/-!
# Registered formats

A source and a command are kept under one text, the two in lower case with an underscore between
them.  Pairs that differ in letter case only share that text, unless a capital sigma is among their
letters, whose lower-case form depends on its place.  Pairs of which one is the other with its
underscores shared out in another way share it too.  A pair has the format that was registered last
under a pair with the same text, and no other registration changes it.
-/

namespace LeaseRoster

namespace Text

/-- Lower-casing makes no underscores. -/
theorem underscore_mem_of_mem_lower {text : List Char} (member : '_' ∈ lower text) :
    '_' ∈ text :=
  mem_of_mem_lower (by decide) member

end Text

namespace Feed

/-- That two words are the same letter by letter, up to the case of each letter on its own. -/
def SameLetters (first second : String) : Prop :=
  first.toList.map Text.lowerChar = second.toList.map Text.lowerChar

instance (first second : String) : Decidable (SameLetters first second) :=
  inferInstanceAs (Decidable (_ = _))

/-- That two words have one lower-case form. -/
def SameLowered (first second : String) : Prop :=
  Text.lower first.toList = Text.lower second.toList

instance (first second : String) : Decidable (SameLowered first second) :=
  inferInstanceAs (Decidable (_ = _))

/-- That a word has no capital sigma. -/
def IsSigmaFree (word : String) : Prop := ∀ letter ∈ word.toList, letter.toNat ≠ 0x3a3

instance (word : String) : Decidable (IsSigmaFree word) := List.decidableBAll _ word.toList

theorem SameLetters.sameLowered {first second : String} (same : SameLetters first second)
    (firstFree : IsSigmaFree first) (secondFree : IsSigmaFree second) : SameLowered first second :=
  Text.lower_congr firstFree secondFree same

/-- When two pairs of a source and a command are kept under one text: their lower-case forms agree,
or one of them has more of the underscores in its source, and less in its command. -/
inductive SharesKey (source command otherSource otherCommand : String) : Prop
  | alike (sources : SameLowered source otherSource) (commands : SameLowered command otherCommand)
  | longer (middle : List Char)
      (sources : Text.lower source.toList = Text.lower otherSource.toList ++ '_' :: middle)
      (commands : Text.lower otherCommand.toList = middle ++ '_' :: Text.lower command.toList)
  | shorter (middle : List Char)
      (sources : Text.lower otherSource.toList = Text.lower source.toList ++ '_' :: middle)
      (commands : Text.lower command.toList = middle ++ '_' :: Text.lower otherCommand.toList)

theorem formatKey_eq_iff (source command otherSource otherCommand : String) :
    formatKey source command = formatKey otherSource otherCommand ↔
      SharesKey source command otherSource otherCommand := by
  rw [formatKey, formatKey, String.ofList_inj, List.append_eq_append_iff]
  constructor
  · rintro (⟨between, sources, commands⟩ | ⟨between, sources, commands⟩)
    · cases between with
      | nil =>
        rw [List.append_nil] at sources
        exact .alike sources.symm (List.cons.inj commands).2
      | cons mark middle =>
        obtain ⟨rfl, rest⟩ := List.cons.inj commands
        exact .shorter middle sources rest
    · cases between with
      | nil =>
        rw [List.append_nil] at sources
        exact .alike sources (List.cons.inj commands).2.symm
      | cons mark middle =>
        obtain ⟨rfl, rest⟩ := List.cons.inj commands
        exact .longer middle sources rest
  · rintro (⟨sources, commands⟩ | ⟨middle, sources, commands⟩ | ⟨middle, sources, commands⟩)
    · exact .inl ⟨[], by rw [List.append_nil, sources], by rw [commands, List.nil_append]⟩
    · exact .inr ⟨'_' :: middle, sources, by rw [commands, List.cons_append]⟩
    · exact .inl ⟨'_' :: middle, sources, by rw [commands, List.cons_append]⟩

/-- Pairs whose lower-case forms differ share a text only by underscores in the source of the one
and in the command of the other. -/
theorem SharesKey.alike_or_underscores {source command otherSource otherCommand : String}
    (shared : SharesKey source command otherSource otherCommand) :
    (SameLowered source otherSource ∧ SameLowered command otherCommand) ∨
      ('_' ∈ source.toList ∧ '_' ∈ otherCommand.toList) ∨
      ('_' ∈ otherSource.toList ∧ '_' ∈ command.toList) := by
  have inside : ∀ {front behind : List Char}, '_' ∈ front ++ '_' :: behind :=
    List.mem_append_right _ List.mem_cons_self
  rcases shared with ⟨sources, commands⟩ | ⟨middle, sources, commands⟩ |
    ⟨middle, sources, commands⟩
  · exact .inl ⟨sources, commands⟩
  · have first := Text.underscore_mem_of_mem_lower (sources ▸ inside)
    have second := Text.underscore_mem_of_mem_lower (commands ▸ inside)
    exact .inr (.inl ⟨first, second⟩)
  · have first := Text.underscore_mem_of_mem_lower (sources ▸ inside)
    have second := Text.underscore_mem_of_mem_lower (commands ▸ inside)
    exact .inr (.inr ⟨first, second⟩)

/-! ## Registrations one after another -/

/-- A registration of what reads the feed of a source and a command. -/
structure Registration where
  source : String
  command : String
  reader : FeedReader

/-- Whether a registration is one for a pair of a source and a command. -/
def Registration.IsFor (registration : Registration) (source command : String) : Prop :=
  SharesKey registration.source registration.command source command

/-- That a reader is the one of the latest registration for a pair. -/
def IsLatestFor (source command : String) (registrations : List Registration)
    (reader : FeedReader) : Prop :=
  ∃ before registration after, registrations = before ++ registration :: after ∧
    registration.reader = reader ∧ registration.IsFor source command ∧
    ∀ later ∈ after, ¬ later.IsFor source command

namespace Formats

/-- The formats with some more registered, one after another. -/
def registerAll (formats : Formats) (registrations : List Registration) : Formats :=
  registrations.foldl
    (fun known registration =>
      known.register registration.source registration.command registration.reader)
    formats

/-- The registration of the format that is known from the start. -/
def firstRegistration : Registration := ⟨Feed.source, leasesKey, .leaseFile⟩

theorem registerAll_initial (registrations : List Registration) :
    initial.registerAll registrations =
      registerAll Index.empty (firstRegistration :: registrations) := rfl

theorem get?_register_of_isFor (formats : Formats) {registration : Registration}
    {source command : String} (wanted : registration.IsFor source command) :
    (formats.register registration.source registration.command registration.reader).get?
        source command = some registration.reader := by
  rw [get?, register, Index.find?_insert, if_pos ((formatKey_eq_iff _ _ _ _).mpr wanted)]

theorem get?_register_of_not_isFor (formats : Formats) {registration : Registration}
    {source command : String} (other : ¬ registration.IsFor source command) :
    (formats.register registration.source registration.command registration.reader).get?
        source command = formats.get? source command := by
  rw [get?, register, Index.find?_insert, if_neg (mt (formatKey_eq_iff _ _ _ _).mp other), get?]

/-- Registrations for other pairs change nothing for a pair. -/
theorem get?_registerAll_of_not_isFor (formats : Formats) {registrations : List Registration}
    {source command : String}
    (others : ∀ registration ∈ registrations, ¬ registration.IsFor source command) :
    (formats.registerAll registrations).get? source command = formats.get? source command := by
  induction registrations generalizing formats with
  | nil => rfl
  | cons registration rest ih =>
    obtain ⟨other, restOthers⟩ := List.forall_mem_cons.mp others
    exact (ih _ restOthers).trans (get?_register_of_not_isFor formats other)

theorem registerAll_append (formats : Formats) (first second : List Registration) :
    formats.registerAll (first ++ second) = (formats.registerAll first).registerAll second :=
  List.foldl_append

theorem get?_registerAll_of_isLatestFor (formats : Formats) {registrations : List Registration}
    {source command : String} {reader : FeedReader}
    (latest : IsLatestFor source command registrations reader) :
    (formats.registerAll registrations).get? source command = some reader := by
  obtain ⟨before, registration, after, rfl, rfl, wanted, others⟩ := latest
  rw [registerAll_append]
  exact (get?_registerAll_of_not_isFor _ others).trans (get?_register_of_isFor _ wanted)

/-- What a pair has behind some registrations rests on what it had before them. -/
theorem get?_registerAll_congr {formats others : Formats} {source command : String}
    (same : formats.get? source command = others.get? source command)
    (registrations : List Registration) :
    (formats.registerAll registrations).get? source command =
      (others.registerAll registrations).get? source command := by
  induction registrations generalizing formats others with
  | nil => exact same
  | cons registration rest ih =>
    apply ih
    by_cases wanted : registration.IsFor source command
    · rw [get?_register_of_isFor _ wanted, get?_register_of_isFor _ wanted]
    · rw [get?_register_of_not_isFor _ wanted, get?_register_of_not_isFor _ wanted, same]

end Formats

/-- Of some registrations there is none for a pair, or one of them is the latest. -/
theorem exists_isLatestFor (source command : String) (registrations : List Registration) :
    (∀ registration ∈ registrations, ¬ registration.IsFor source command) ∨
      ∃ reader, IsLatestFor source command registrations reader := by
  induction registrations with
  | nil => exact .inl (List.forall_mem_nil _)
  | cons registration rest ih =>
    rcases ih with others | ⟨reader, before, latest, after, rfl, found⟩
    · by_cases wanted : registration.IsFor source command
      · exact .inr ⟨registration.reader, [], registration, rest, rfl, rfl, wanted, others⟩
      · exact .inl (List.forall_mem_cons.mpr ⟨wanted, others⟩)
    · exact .inr ⟨reader, registration :: before, latest, after, rfl, found⟩

end Feed

end LeaseRoster
