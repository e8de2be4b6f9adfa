import LeaseRoster.Proofs.ConfigurationStops
import LeaseRoster.Proofs.DocumentFaults
import LeaseRoster.Startup

/-!
# Faults of the start

Whatever is wrong with the content of the configuration file or with the number of the
server run is meant to be reported as a fault of the configuration, which ends the service
with an exit code.  This holds but for three ways past it: files that are no text, spellings
that stop the reading of a document, and values that stop the reading of a record.  The
faults on these ways leave the service without a report.
-/

namespace LeaseRoster

namespace Startup

/-! ## The configuration file -/

/-- Whether a fault is one that the content of a file may have and that is not reported. -/
def isUnreported : Fault → Bool
  | .undecodable => true
  | .value _ => true
  | .wrongKind => true
  | .foreignValue => true
  | .missingKey => true
  | .missingItem => true
  | .tooDeep => true
  | .beyondRange => true
  | _ => false

/-- The ways on which the content of a configuration file is not reported to be wrong. -/
inductive Escapes (bytes : List UInt8) (level : Option String) : Fault → Prop
  | undecodable (unread : Text.decodeStrict bytes = none) : Escapes bytes level .undecodable
  | document (text : List Char) (fault : Fault) (decoded : Text.decodeStrict bytes = some text)
      (fails : Document.read (Text.unifyNewlines text) = .error fault)
      (other : ∀ reason, fault ≠ .document reason) : Escapes bytes level fault
  | options (text : List Char) (configuration : Datum) (fault : Fault)
      (decoded : Text.decodeStrict bytes = some text)
      (found : Document.read (Text.unifyNewlines text) = .ok configuration)
      (mapping : configuration.isMapping = true)
      (stops : Options.stop? (withLevel level configuration) = some fault) :
      Escapes bytes level fault

section Load

variable {path : String} {bytes : List UInt8} {level : Option String}

theorem loadOptions_of_undecodable (unread : Text.decodeStrict bytes = none) :
    loadOptions path (.ok (.file bytes)) level = .error .undecodable := by
  simp [loadOptions, StoredFile.exists?, StoredFile.text, StoredFile.bytes, unread, bind,
    Except.bind, throw, throwThe, MonadExceptOf.throw]

theorem optionsDocument_of_mapping {text : List Char} {configuration : Datum}
    (found : Document.read text = .ok configuration) (mapping : configuration.isMapping = true) :
    optionsDocument path text = .ok configuration := by
  rw [optionsDocument, found]
  cases configuration with
  | null => cases mapping
  | _ => simp [mapping]

theorem optionsDocument_of_other {text : List Char} {configuration : Datum}
    (found : Document.read text = .ok configuration) (set : configuration ≠ .null)
    (other : ¬ configuration.isMapping = true) :
    optionsDocument path text = .error (.configuration (.notMapping path)) := by
  rw [optionsDocument, found]
  cases configuration with
  | null => exact (set rfl).elim
  | _ => simp [other]

/-- A file that sets nothing is not stopped by the level of the log. -/
theorem stop?_withLevel_empty (level : Option String) :
    Options.stop? (withLevel level (.mapping [])) = none := by
  cases level with
  | none => rfl
  | some name =>
    unfold withLevel
    dsimp only
    split <;> rfl

/-- The options of a configuration that has been found in a file. -/
def optionsOf (path : String) (level : Option String) (configuration : Datum) :
    Except Fault Options :=
  match (Options.read (withLevel level configuration)).result with
  | .error (.invalid faults) => .error (.configuration (.refused path faults))
  | .error fault => .error fault
  | .ok options => .ok options

theorem loadOptions_of_decoded {text : List Char}
    (decoded : Text.decodeStrict bytes = some text) :
    loadOptions path (.ok (.file bytes)) level =
      optionsDocument path (Text.unifyNewlines text) >>= optionsOf path level := by
  simp only [loadOptions, StoredFile.exists?, StoredFile.text, StoredFile.bytes, decoded, bind,
    Except.bind, pure, Except.pure]
  rfl

/-- The options of a configuration are stopped, refused or accepted. -/
theorem optionsOf_of_stop {configuration : Datum} {fault : Fault}
    (stops : Options.stop? (withLevel level configuration) = some fault) :
    optionsOf path level configuration = .error fault := by
  have kind := Options.isStop_of_stop? stops
  rw [← Options.stop?_read] at stops
  unfold optionsOf
  cases read : Options.read (withLevel level configuration) with
  | stopped cause =>
    rw [read] at stops
    cases stops
    cases fault with
    | invalid faults => cases kind
    | _ => rfl
  | refused faults =>
    rw [read] at stops
    cases stops
  | accepted options =>
    rw [read] at stops
    cases stops

theorem stop_of_optionsOf {configuration : Datum} {fault : Fault}
    (fails : optionsOf path level configuration = .error fault) :
    (∃ reason, fault = .configuration reason) ∨
      Options.stop? (withLevel level configuration) = some fault := by
  rw [← Options.stop?_read]
  unfold optionsOf at fails
  cases read : Options.read (withLevel level configuration) with
  | stopped cause =>
    rw [read] at fails
    cases cause with
    | invalid faults =>
      cases fails
      exact Or.inl ⟨_, rfl⟩
    | _ =>
      cases fails
      exact Or.inr rfl
  | refused faults =>
    rw [read] at fails
    cases fails
    exact Or.inl ⟨_, rfl⟩
  | accepted options =>
    rw [read] at fails
    cases fails

end Load

/-! ## All ways -/

section Ways

variable {bytes : List UInt8} {level : Option String} {fault : Fault}

theorem Escapes.isUnreported (escapes : Escapes bytes level fault) :
    Startup.isUnreported fault = true := by
  cases escapes with
  | undecodable unread => rfl
  | document text fault decoded fails other =>
    have kind := (Document.reads_read _).kind_of_error fails
    cases fault with
    | document reason => exact (other reason rfl).elim
    | _ => first | rfl | cases kind
  | options text configuration fault decoded found mapping stops =>
    have kind := Options.isStop_of_stop? stops
    cases fault <;> first | rfl | cases kind

theorem Escapes.loadOptions (escapes : Escapes bytes level fault) (path : String) :
    loadOptions path (.ok (.file bytes)) level = .error fault := by
  cases escapes with
  | undecodable unread => exact loadOptions_of_undecodable unread
  | document text fault decoded fails other =>
    rw [loadOptions_of_decoded decoded, optionsDocument, fails]
    cases fault with
    | document reason => exact (other reason rfl).elim
    | _ => rfl
  | options text configuration fault decoded found mapping stops =>
    rw [loadOptions_of_decoded decoded, optionsDocument_of_mapping found mapping]
    exact optionsOf_of_stop stops

theorem escapes_of_loadOptions {path : String}
    (fails : loadOptions path (.ok (.file bytes)) level = .error fault) :
    (∃ reason, fault = .configuration reason) ∨ Escapes bytes level fault := by
  cases decoded : Text.decodeStrict bytes with
  | none =>
    rw [loadOptions_of_undecodable decoded] at fails
    cases fails
    exact Or.inr (.undecodable decoded)
  | some text =>
    rw [loadOptions_of_decoded decoded] at fails
    cases read : Document.read (Text.unifyNewlines text) with
    | error cause =>
      rw [optionsDocument, read] at fails
      cases cause with
      | document reason =>
        cases fails
        exact Or.inl ⟨_, rfl⟩
      | _ =>
        cases fails
        exact Or.inr (.document text _ decoded read nofun)
    | ok configuration =>
      by_cases mapping : configuration.isMapping = true
      · rw [optionsDocument_of_mapping read mapping] at fails
        refine (stop_of_optionsOf fails).imp_right fun stops => ?_
        exact .options text configuration fault decoded read mapping stops
      · by_cases blank : configuration = .null
        · subst blank
          rw [optionsDocument, read] at fails
          refine (stop_of_optionsOf fails).imp_right fun stops => ?_
          rw [stop?_withLevel_empty] at stops
          cases stops
        · rw [optionsDocument_of_other read blank mapping] at fails
          cases fails
          exact Or.inl ⟨_, rfl⟩

end Ways

/-! ## The number of the server run -/

theorem epochOf_cases (source : String) (raw : Datum) :
    (∃ number, 0 ≤ number ∧ epochOf source raw = .ok number) ∨
      ∃ reason, epochOf source raw = .error (.configuration reason) := by
  unfold epochOf
  split
  · exact Or.inr ⟨_, rfl⟩
  next number _ =>
    split
    · exact Or.inr ⟨_, rfl⟩
    next natural => exact Or.inl ⟨number, Int.not_lt.mp natural, rfl⟩

theorem undecodable_of_text {bytes : List UInt8} {fault : Fault}
    (fails : (StoredFile.file bytes).text = .error fault) : fault = .undecodable := by
  simp only [StoredFile.text, StoredFile.bytes, bind, Except.bind] at fails
  split at fails
  · cases fails
  · cases fails
    rfl

/-- Of a file only its bytes can be in the way of the number in it: that it is missing or a
directory is reported. -/
theorem readEpoch_cases (path : String) (file : StoredFile) (given : Option String) :
    let read := readEpoch path (.ok file) (given.map .text)
    (given = none ∧ file.text = .error .undecodable ∧ read = .error .undecodable) ∨
      ((given = none → file.text ≠ .error .undecodable) ∧
        ((∃ number, 0 ≤ number ∧ read = .ok number) ∨
          ∃ reason, read = .error (.configuration reason))) := by
  intro read
  cases given with
  | some text => exact Or.inr ⟨nofun, epochOf_cases epochVariable (.text text)⟩
  | none =>
    cases content : file.text with
    | ok text =>
      have same : read = epochOf path (.text (String.ofList text)) := by
        change readEpoch path (.ok file) none = _
        simp [readEpoch, bind, Except.bind, content]
      rw [same]
      exact Or.inr ⟨nofun, epochOf_cases path _⟩
    | error fault =>
      have same : read = .error (epochUnread path fault) := by
        change readEpoch path (.ok file) none = _
        simp [readEpoch, bind, Except.bind, content]
      rw [same]
      cases file with
      | missing =>
        cases content
        exact Or.inr ⟨nofun, Or.inr ⟨_, rfl⟩⟩
      | directory =>
        cases content
        exact Or.inr ⟨nofun, Or.inr ⟨_, rfl⟩⟩
      | file bytes =>
        obtain rfl := undecodable_of_text content
        exact Or.inl ⟨rfl, rfl, rfl⟩

/-! ## The whole run -/

section Run

variable {surroundings : Surroundings} {fault : Fault}

/-- The end of a run that does not come to its start: with a report, or without one. -/
def endingOf (level : LogLevel) (notices : List Notice) (fault : Fault) : Except Fault Ending :=
  if isReported fault then .ok ⟨1, level, notices ++ [.startFailed fault]⟩ else .error fault

theorem run_of_start {notices : List Notice} (started : start surroundings = ⟨notices, .error fault⟩)
    (signal : Option Nat) :
    run surroundings signal = endingOf (levelOf surroundings) notices fault := by
  unfold run
  rw [started]
  rfl

theorem run_of_options_error (failed : options surroundings = .error fault)
    (signal : Option Nat) : run surroundings signal = endingOf .info [] fault := by
  have started : start surroundings = ⟨[], .error fault⟩ := by
    unfold start
    rw [failed]
    rfl
  have level : levelOf surroundings = .info := by
    unfold levelOf
    rw [failed]
  rw [run_of_start started, level]

theorem run_of_epoch_error {loaded : Options} (succeeded : options surroundings = .ok loaded)
    (failed : epoch surroundings loaded = .error fault) (signal : Option Nat) :
    run surroundings signal =
      endingOf loaded.logLevel
        (optionsNotices loaded ++ Registry.buildNotices loaded.reservations) fault := by
  have built : build surroundings loaded =
      ⟨Registry.buildNotices loaded.reservations, .error fault⟩ := by
    unfold build
    rw [failed]
    simp [Attempt.noting, Attempt.andThen, Attempt.after]
  have started : start surroundings =
      ⟨optionsNotices loaded ++ Registry.buildNotices loaded.reservations, .error fault⟩ := by
    unfold start
    rw [succeeded]
    simp [Attempt.noting, Attempt.andThen, Attempt.after, built]
  have level : levelOf surroundings = loaded.logLevel := by
    unfold levelOf
    rw [succeeded]
  rw [run_of_start started, level]

theorem isReported_of_isUnreported (unreported : isUnreported fault = true) :
    isReported fault = false := by
  cases fault <;> first | rfl | cases unreported

end Run

/-- The bytes of a text in ASCII. -/
def asciiBytes (text : String) : List UInt8 :=
  text.toList.map fun character => UInt8.ofNat character.toNat

/-- The surroundings with a configuration file and nothing else. -/
def configuredBy (bytes : List UInt8) : Surroundings :=
  ⟨"options.yaml", none, none, StoredFiles.note Index.empty "options.yaml" (.file bytes)⟩

end Startup

end LeaseRoster
