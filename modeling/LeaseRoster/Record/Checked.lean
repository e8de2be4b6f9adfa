import LeaseRoster.Fault

/-!
# Checked values

Reading a record gathers the faults of all its fields, in the order of the
fields, so that they can be reported together.  A fault that is not about a field
stops the reading at once; of several the first in field order wins.
-/

namespace LeaseRoster

/-- The outcome of reading a value: stopped by a fault, refused for the gathered
field faults, or accepted. -/
inductive Checked (α : Type)
  | stopped (fault : Fault)
  | refused (faults : List FieldFault)
  | accepted (value : α)

namespace Checked

variable {α β : Type}

def map (transform : α → β) : Checked α → Checked β
  | .stopped fault => .stopped fault
  | .refused faults => .refused faults
  | .accepted value => .accepted (transform value)

/-- Two outcomes together: the first stop wins, refusals are gathered. -/
def both : Checked (α → β) → Checked α → Checked β
  | .stopped fault, _ => .stopped fault
  | _, .stopped fault => .stopped fault
  | .refused left, .refused right => .refused (left ++ right)
  | .refused faults, .accepted _ => .refused faults
  | .accepted _, .refused faults => .refused faults
  | .accepted transform, .accepted value => .accepted (transform value)

instance : Applicative Checked where
  pure := .accepted
  map transform outcome := outcome.map transform
  seq transform outcome := both transform (outcome ())

/-- A refusal of the value itself for one cause. -/
def refuse (cause : FieldCause) : Checked α := .refused [⟨cause, []⟩]

/-- The value that there may be, and otherwise a refusal for one cause. -/
def ofOption (cause : FieldCause) : Option α → Checked α
  | some value => .accepted value
  | none => refuse cause

/-- A further rule on an accepted value. -/
def thenCheck (outcome : Checked α) (rule : α → Checked β) : Checked β :=
  match outcome with
  | .stopped fault => .stopped fault
  | .refused faults => .refused faults
  | .accepted value => rule value

/-- The outcome seen from a record further out. -/
def inside (step : FieldStep) : Checked α → Checked α
  | .stopped fault => .stopped fault
  | .refused faults => .refused (faults.map (·.inside step))
  | .accepted value => .accepted value

def result : Checked α → Except Fault α
  | .stopped fault => .error fault
  | .refused faults => .error (.invalid faults)
  | .accepted value => .ok value

/-- A rule whose faults are about the value itself. -/
def ofExcept : Except Fault α → Checked α
  | .ok value => .accepted value
  | .error (.value fault) => refuse (.value fault)
  | .error fault => .stopped fault

/-- The outcomes of the items of a list together, each under its place. -/
def all (read : β → Checked α) (place : Nat) : List β → Checked (List α)
  | [] => .accepted []
  | item :: rest =>
    List.cons <$> (read item).inside (.index place) <*> all read (place + 1) rest

/-! ## Accepted values -/

theorem map_eq_accepted_iff (transform : α → β) (outcome : Checked α) (value : β) :
    transform <$> outcome = .accepted value ↔
      ∃ inner, outcome = .accepted inner ∧ transform inner = value := by
  change outcome.map transform = .accepted value ↔ _
  cases outcome <;> simp [Checked.map]

theorem seq_eq_accepted_iff (transform : Checked (α → β)) (outcome : Checked α) (value : β) :
    transform <*> outcome = .accepted value ↔
      ∃ function inner, transform = .accepted function ∧ outcome = .accepted inner ∧
        function inner = value := by
  change both transform outcome = .accepted value ↔ _
  cases transform <;> cases outcome <;> simp [both]

theorem inside_eq_accepted_iff (step : FieldStep) (outcome : Checked α) (value : α) :
    outcome.inside step = .accepted value ↔ outcome = .accepted value := by
  cases outcome <;> simp [inside]

theorem result_eq_ok_iff (outcome : Checked α) (value : α) :
    outcome.result = .ok value ↔ outcome = .accepted value := by
  cases outcome <;> simp [result]

theorem thenCheck_eq_accepted_iff (outcome : Checked α) (rule : α → Checked β) (value : β) :
    outcome.thenCheck rule = .accepted value ↔
      ∃ inner, outcome = .accepted inner ∧ rule inner = .accepted value := by
  cases outcome <;> simp [thenCheck]

theorem ofExcept_eq_accepted_iff (outcome : Except Fault α) (value : α) :
    ofExcept outcome = .accepted value ↔ outcome = .ok value := by
  cases outcome with
  | ok inner => simp [ofExcept]
  | error fault => cases fault <;> simp [ofExcept, refuse]

end Checked

end LeaseRoster
