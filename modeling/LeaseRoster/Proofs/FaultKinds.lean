import LeaseRoster.Fault
import Mathlib.Data.List.Basic

/-!
# Kinds of faults

An operation made of others fails only with faults of a certain kind if they do.  The rules
here go from an operation to its parts; what a part answers may be needed for the next one,
so they carry a condition on the answer along.
-/

namespace LeaseRoster

variable {α β : Type}

/-- An outcome answers what meets a condition, or is a fault of a certain kind. -/
def Yields (kind : Fault → Bool) (answer : α → Prop) : Except Fault α → Prop
  | .ok value => answer value
  | .error fault => kind fault = true

section Rules

variable {kind : Fault → Bool} {answer other : α → Prop}

@[simp] theorem yields_ok (value : α) : Yields kind answer (.ok value) ↔ answer value := Iff.rfl

@[simp] theorem yields_error (fault : Fault) :
    Yields kind answer (.error fault) ↔ kind fault = true := Iff.rfl

@[simp] theorem yields_pure (value : α) : Yields kind answer (pure value) ↔ answer value :=
  Iff.rfl

@[simp] theorem yields_throw (fault : Fault) :
    Yields kind answer (throw fault) ↔ kind fault = true := Iff.rfl

@[simp] theorem yields_bind (first : Except Fault β) (next : β → Except Fault α) :
    Yields kind answer (first >>= next) ↔
      Yields kind (fun value => Yields kind answer (next value)) first := by
  cases first <;> exact Iff.rfl

@[simp] theorem yields_map (transform : β → α) (outcome : Except Fault β) :
    Yields kind answer (transform <$> outcome) ↔
      Yields kind (fun value => answer (transform value)) outcome := by
  cases outcome <;> exact Iff.rfl

@[simp] theorem yields_transform (transform : β → α) (outcome : Except Fault β) :
    Yields kind answer (outcome.map transform) ↔
      Yields kind (fun value => answer (transform value)) outcome := by
  cases outcome <;> exact Iff.rfl

theorem Yields.mono {outcome : Except Fault α} (yields : Yields kind answer outcome)
    (weaker : ∀ value, answer value → other value) : Yields kind other outcome := by
  cases outcome with
  | ok value => exact weaker value yields
  | error fault => exact yields

/-- An operation may be cited whatever is asked of its answer, if that holds of any. -/
theorem Yields.of_any {outcome : Except Fault α}
    (yields : Yields kind (fun _ => True) outcome) (any : ∀ value, other value) :
    Yields kind other outcome :=
  yields.mono fun value _ => any value

theorem Yields.ite {condition : Prop} [Decidable condition] {first second : Except Fault α}
    (yields : Yields kind answer first) (otherwise : Yields kind answer second) :
    Yields kind answer (if condition then first else second) := by
  split
  · exact yields
  · exact otherwise

theorem Yields.kind_of_error {outcome : Except Fault α} (yields : Yields kind answer outcome)
    {fault : Fault} (fails : outcome = .error fault) : kind fault = true := by
  subst fails
  exact yields

/-- A loop over a list is as its steps are. -/
theorem yields_foldlM {step : β → α → Except Fault β} {invariant : β → Prop}
    (kept : ∀ state item, invariant state → Yields kind invariant (step state item))
    (items : List α) {state : β} (holds : invariant state) :
    Yields kind invariant (items.foldlM step state) := by
  induction items generalizing state with
  | nil => exact holds
  | cons item rest ih =>
    rw [List.foldlM_cons, yields_bind]
    exact (kept state item holds).mono fun _ => ih

theorem yields_mapM {step : β → Except Fault α}
    (steps : ∀ item, Yields kind (fun _ => True) (step item)) (items : List β) :
    Yields kind (fun _ => True) (items.mapM step) := by
  induction items with
  | nil => exact trivial
  | cons item rest ih =>
    rw [List.mapM_cons, yields_bind]
    refine (steps item).of_any fun _ => ?_
    rw [yields_bind]
    exact ih

theorem yields_forM {step : β → Except Fault Unit}
    (steps : ∀ item, Yields kind (fun _ => True) (step item)) (items : List β) :
    Yields kind (fun _ => True) (items.forM step) := by
  induction items with
  | nil => exact trivial
  | cons item rest ih =>
    change Yields kind _ (step item >>= fun _ => rest.forM step)
    rw [yields_bind]
    exact (steps item).of_any fun _ => ih

/-- A loop that only checks goes through exactly if every step does. -/
theorem forM_eq_ok_iff (step : β → Except Fault Unit) (items : List β) :
    items.forM step = .ok () ↔ ∀ item ∈ items, step item = .ok () := by
  induction items with
  | nil => simp [List.forM, pure, Except.pure]
  | cons item rest ih =>
    change (step item >>= fun _ => rest.forM step) = .ok () ↔ _
    rw [List.forall_mem_cons, ← ih]
    cases step item <;> simp [bind, Except.bind]

end Rules

end LeaseRoster
