import LeaseRoster.Options.Basic
import LeaseRoster.Sighting
import Mathlib.Data.List.Basic

/-!
# What stops the reading of a record

The faults of the fields of a record are gathered and reported together.  A fault that is
not about a field stops the reading at once.  Only two kinds of fields have such faults:
hardware addresses that are no texts at all, and durations that are too long.  So what
stops the reading of a whole record can be told from a few of its values.
-/

namespace LeaseRoster

namespace Checked

variable {α β : Type}

/-- The fault that stops a reading, if one does. -/
def stop? : Checked α → Option Fault
  | .stopped fault => some fault
  | .refused _ => none
  | .accepted _ => none

@[simp] theorem stop?_accepted (value : α) : (accepted value).stop? = none := rfl

@[simp] theorem stop?_refuse (cause : FieldCause) : (refuse cause : Checked α).stop? = none :=
  rfl

@[simp] theorem stop?_ofOption (cause : FieldCause) (value : Option α) :
    (ofOption cause value).stop? = none := by
  cases value <;> rfl

@[simp] theorem stop?_ite (condition : Prop) [Decidable condition] (first second : Checked α) :
    (if condition then first else second).stop? =
      if condition then first.stop? else second.stop? := by
  split <;> rfl

@[simp] theorem stop?_map (transform : α → β) (outcome : Checked α) :
    (transform <$> outcome).stop? = outcome.stop? := by
  cases outcome <;> rfl

@[simp] theorem stop?_transform (transform : α → β) (outcome : Checked α) :
    (outcome.map transform).stop? = outcome.stop? := by
  cases outcome <;> rfl

@[simp] theorem stop?_seq (transform : Checked (α → β)) (outcome : Checked α) :
    (transform <*> outcome).stop? = transform.stop?.or outcome.stop? := by
  change (both transform outcome).stop? = _
  cases transform <;> cases outcome <;> rfl

@[simp] theorem stop?_inside (step : FieldStep) (outcome : Checked α) :
    (outcome.inside step).stop? = outcome.stop? := by
  cases outcome <;> rfl

/-- A further rule that stops nothing leaves the stops as they are. -/
theorem stop?_thenCheck {rule : α → Checked β} (mild : ∀ value, (rule value).stop? = none)
    (outcome : Checked α) : (outcome.thenCheck rule).stop? = outcome.stop? := by
  cases outcome with
  | stopped fault => rfl
  | refused faults => rfl
  | accepted value => exact mild value

theorem stop?_all (read : β → Checked α) (place : Nat) (items : List β) :
    (all read place items).stop? = items.findSome? fun item => (read item).stop? := by
  induction items generalizing place with
  | nil => rfl
  | cons item rest ih =>
    rw [all, stop?_seq, stop?_map, stop?_inside, ih, List.findSome?_cons]
    cases (read item).stop? <;> rfl

/-- A reading answers the fault that stops it, or else the gathered faults of its fields. -/
theorem result_error_iff (outcome : Checked α) (fault : Fault) :
    outcome.result = .error fault ↔
      outcome.stop? = some fault ∨ ∃ faults, outcome = .refused faults ∧ fault = .invalid faults := by
  cases outcome <;> simp [result, stop?, eq_comm]

end Checked

namespace Field

variable {α : Type}

/-! ## Readers that stop nothing -/

/-- A reader whose faults are all about the value that it reads. -/
def Mild (read : Reader α) : Prop := ∀ datum, (read datum).stop? = none

theorem mild_text : Mild text := by
  intro datum
  cases datum with
  | bytes value =>
    simp only [text]
    split <;> rfl
  | _ => rfl

theorem Mild.optional {read : Reader α} (mild : Mild read) : Mild (optional read) := by
  intro datum
  unfold Field.optional
  split
  · rfl
  · rw [Checked.stop?_transform, mild]

theorem mild_fromText (unreadable other : FieldCause) {read : List Char → Checked α}
    (mild : ∀ characters, (read characters).stop? = none) :
    Mild (fromText unreadable other read) := by
  intro datum
  unfold fromText
  split
  · split
    · exact mild _
    · rfl
  · rfl
  · rfl

theorem mild_integer : Mild integer := by
  have words : ∀ characters, (integerText characters).stop? = none := by
    intro characters
    unfold integerText
    split <;> rfl
  intro datum
  unfold integer
  split
  · rfl
  · rfl
  · split
    · simp
    · rfl
  · rfl
  · exact mild_fromText .integerText .notInteger words _

theorem mild_number : Mild number := by
  have words : ∀ characters, (numberText characters).stop? = none := fun characters =>
    Checked.stop?_ofOption _ _
  have rounded (value : Binary64) : (finiteNumber value).stop? = none := by
    unfold finiteNumber
    split <;> rfl
  intro datum
  unfold number
  split
  · rfl
  · rfl
  · exact rounded _
  · exact mild_fromText .numberText .notNumber words _

theorem stop?_flagInteger (value : Int) : (flagInteger value).stop? = none := by
  unfold flagInteger
  split
  · rfl
  · split <;> rfl

theorem mild_flag : Mild flag := by
  have words : ∀ characters, (flagText characters).stop? = none := fun characters =>
    Checked.stop?_ofOption _ _
  intro datum
  unfold flag
  split
  · rfl
  · split
    · exact stop?_flagInteger _
    · rfl
  · split
    · split
      · exact stop?_flagInteger _
      · rfl
    · rfl
  · exact mild_fromText .flagText .notFlag words _

/-- A further rule that stops nothing, such as a bound, leaves a mild reader mild. -/
theorem Mild.thenCheck {α β : Type} {read : Reader α} (mild : Mild read) {rule : α → Checked β}
    (refuses : ∀ value, (rule value).stop? = none) :
    Mild fun datum => (read datum).thenCheck rule := by
  intro datum
  rw [Checked.stop?_thenCheck refuses, mild]

theorem mild_address : Mild address := by
  intro datum
  exact Checked.stop?_ofOption _ _

theorem mild_moment : Mild moment := by
  have counted (count : Int) (micros : Nat) : (momentOfCount count micros).stop? = none := by
    simp [momentOfCount]
  have numbered (value : Binary64) : (momentOfNumber value).stop? = none := by
    unfold momentOfNumber
    split
    · exact counted _ _
    · rfl
    · rfl
    · rfl
  have rounded (value : Binary64) : (momentOfFinite value).stop? = none := by
    unfold momentOfFinite
    split
    · exact numbered _
    · rfl
  intro datum
  unfold moment
  split
  · rfl
  · exact Checked.stop?_ofOption _ _
  · split
    · exact counted _ _
    · exact rounded _
  · exact numbered _
  · rfl

/-! ## Readers that stop -/

/-- The fault with which a value in the place of a hardware address stops a reading: it is
neither missing nor a text. -/
def foreignMac? : Datum → Option Fault
  | .null => none
  | .text _ => none
  | .bytes _ => some .wrongKind
  | _ => some .foreignValue

@[simp] theorem stop?_mac (datum : Datum) : (mac datum).stop? = foreignMac? datum := by
  cases datum with
  | text value =>
    simp only [mac, readMac]
    split <;> rfl
  | _ => rfl

/-- The fault with which a value in the place of a duration stops a reading: it is too
long. -/
def endless? (datum : Datum) : Option Fault :=
  if readDuration datum = .error .beyondRange then some .beyondRange else none

@[simp] theorem stop?_duration (datum : Datum) : (duration datum).stop? = endless? datum := by
  have kinds : ∀ fault, readDuration datum = .error fault →
      fault = .beyondRange ∨ ∃ reason, fault = .value reason := by
    have numeric (set : Bool) (fault : Fault)
        (fails : readDuration.numeric datum set = .error fault) :
        ∃ reason, fault = .value reason := by
      unfold readDuration.numeric at fails
      split at fails
      · cases fails
        exact ⟨_, rfl⟩
      · cases fails
    intro fault fails
    unfold readDuration at fails
    split at fails
    · cases fails
    · cases fails
    · exact Or.inr (numeric _ _ fails)
    · exact Or.inr (numeric _ _ fails)
    · exact Or.inr (numeric _ _ fails)
    · split at fails
      · cases fails
      · cases fails
      · cases fails
        exact Or.inr ⟨_, rfl⟩
      · cases fails
        exact Or.inl rfl
  unfold endless? duration
  cases outcome : readDuration datum with
  | ok value => rfl
  | error fault =>
    obtain rfl | ⟨reason, rfl⟩ := kinds fault outcome <;> rfl

/-! ## Records -/

@[simp] theorem stop?_required (record : Datum) (name : String) (read : Reader α) :
    (required record name read).stop? =
      (record.get? name).bind fun datum => (read datum).stop? := by
  unfold required
  cases record.get? name <;> simp

@[simp] theorem stop?_withDefault (record : Datum) (name : String) (value : α)
    (read : Reader α) :
    (withDefault record name value read).stop? =
      (record.get? name).bind fun datum => (read datum).stop? := by
  unfold withDefault
  cases record.get? name <;> simp

theorem stop?_of_mild {read : Reader α} (mild : Mild read) (value : Option Datum) :
    (value.bind fun datum => (read datum).stop?) = none := by
  cases value with
  | none => rfl
  | some datum => exact mild datum

/-- The first fault that stops the reading of the items of a list. -/
theorem stop?_list (read : Reader α) (datum : Datum) :
    (list read datum).stop? =
      datum.items?.bind fun items => items.findSome? fun item => (read item).stop? := by
  unfold list
  cases datum.items? with
  | none => rfl
  | some items => exact Checked.stop?_all read 0 items

/-- A record is stopped by the values under its keys, and what is no mapping by nothing. -/
theorem stop?_record (name : String) (fields : Datum → Checked α) {datum : Datum}
    {stop : Option Fault}
    (own : ∀ entries, datum.untied = .mapping entries → (fields (.mapping entries)).stop? = stop)
    (other : (∀ entries, datum.untied ≠ .mapping entries) → stop = none) :
    (record name fields datum).stop? = stop := by
  unfold record
  split
  next entries opened => exact own entries opened
  next foreign => exact (other foreign).symm

end Field

namespace Datum

theorem get?_of_untied {datum : Datum} {entries : List (Datum × Datum)}
    (opened : datum.untied = .mapping entries) (name : String) :
    (Datum.mapping entries).get? name = datum.get? name := by
  rw [get?, get?, opened]
  rfl

theorem get?_of_foreign {datum : Datum} (foreign : ∀ entries, datum.untied ≠ .mapping entries)
    (name : String) : datum.get? name = none := by
  unfold get?
  split
  next entries opened => exact (foreign entries opened).elim
  next => rfl

end Datum

end LeaseRoster
