/-
Actions: steps that read and change a state and may fail.

An action that fails keeps what it did before it failed. Undoing it is a matter
of whoever runs it: see `Database.transaction`.
-/
import SavingsClub.Fault
import SavingsClub.Settings
import SavingsClub.Text.Tear

namespace SavingsClub

/-- What a place that keeps data may fail at. -/
inductive StorageFault where
  | unavailable
  /-- A round number does not fit the 64 bits that are kept of it. -/
  | roundTooLarge
  /-- An amount or a time has more digits than are read back. -/
  | numeralTooLong
  /-- A name does not consist of characters. -/
  | nameTorn (tear : Text.Tear)
  /-- A row has been begun and never filled in. -/
  | rowUnfinished
  /-- An earlier write failed, and the work that it belongs to has not been
  given up yet. -/
  | rollbackPending
  deriving DecidableEq, Repr

/-- Why an action failed. -/
inductive Failure where
  | fault (f : Fault)
  | storage (f : StorageFault)
  /-- The settings, which the action asks for, cannot be read. -/
  | settings (f : SettingsFault)
  /-- What is looked for goes by a name that does not consist of characters. -/
  | unsearchable (tear : Text.Tear)
  /-- The record that is to be changed or kept is not there. -/
  | noRecord
  /-- What was to be reported holds an integer that is too long to be
  written. -/
  | unspeakable
  deriving DecidableEq, Repr

/-- An action on a state of type `σ`. -/
abbrev Act (σ α : Type) := EStateM Failure σ α

namespace Act

variable {σ α : Type}

def refuse (f : Fault) : Act σ α := throw (.fault f)

/-- Goes on with a value, or refuses. -/
def check : Except Fault α → Act σ α
  | .ok a => pure a
  | .error f => refuse f

def read (f : σ → α) : Act σ α := fun s => .ok (f s) s

/-- Looks at the state unless the look fails. -/
def tryRead (f : σ → Except Failure α) : Act σ α := fun s =>
  match f s with
  | .ok a => .ok a s
  | .error e => .error e s

def change (f : σ → σ) : Act σ Unit := fun s => .ok () (f s)

/-- Reports what has been done. A report names integers, and it can be made only
if each of them can be written. -/
def report (named : List Int) : Act σ Unit :=
  if named.all isWritable then pure () else throw .unspeakable

/-- Changes the state unless the change fails. -/
def tryChange (f : σ → Except Failure σ) : Act σ Unit := fun s =>
  match f s with
  | .ok s' => .ok () s'
  | .error e => .error e s

-- ======================================================================== laws

variable {β : Type} {x : Act σ α} {s s' : σ}

/-- What follows an action that succeeds goes on from where it ended. -/
theorem bind_ok {a : α} (h : x s = .ok a s') (k : α → Act σ β) :
    (x >>= k) s = k a s' := by
  show EStateM.bind x k s = _
  unfold EStateM.bind
  rw [h]

theorem bind_error {f : Failure} (h : x s = .error f s') (k : α → Act σ β) :
    (x >>= k) s = .error f s' := by
  show EStateM.bind x k s = _
  unfold EStateM.bind
  rw [h]

theorem map_ok {a : α} (h : x s = .ok a s') (f : α → β) :
    (f <$> x) s = .ok (f a) s' := by
  show EStateM.map f x s = _
  unfold EStateM.map
  rw [h]

theorem map_error {e : Failure} (h : x s = .error e s') (f : α → β) :
    (f <$> x) s = .error e s' := by
  show EStateM.map f x s = _
  unfold EStateM.map
  rw [h]

theorem tryRead_ok {f : σ → Except Failure α} {a : α} (h : f s = .ok a) :
    tryRead f s = .ok a s := by
  unfold tryRead
  rw [h]

theorem tryRead_error {f : σ → Except Failure α} {e : Failure}
    (h : f s = .error e) :
    tryRead f s = .error e s := by
  unfold tryRead
  rw [h]

theorem tryChange_ok {f : σ → Except Failure σ} (h : f s = .ok s') :
    tryChange f s = .ok () s' := by
  unfold tryChange
  rw [h]

theorem tryChange_error {f : σ → Except Failure σ} {e : Failure}
    (h : f s = .error e) :
    tryChange f s = .error e s := by
  unfold tryChange
  rw [h]

/-- A report without integers can always be made. -/
theorem report_nil : report [] = (pure () : Act σ Unit) := rfl

theorem report_ok {named : List Int} (h : named.all isWritable = true) :
    report named = (pure () : Act σ Unit) := if_pos h

theorem report_error {named : List Int} (h : named.all isWritable = false) :
    report named = (throw .unspeakable : Act σ Unit) := by
  unfold report
  rw [h]
  rfl

/-- An action that succeeds has succeeded in both of its parts. -/
theorem bind_eq_ok {k : α → Act σ β} {b : β} (h : (x >>= k) s = .ok b s') :
    ∃ a s₁, x s = .ok a s₁ ∧ k a s₁ = .ok b s' := by
  cases hx : x s with
  | ok a s₁ =>
      rw [bind_ok hx] at h
      exact ⟨a, s₁, rfl, h⟩
  | error f s₁ =>
      rw [bind_error hx] at h
      cases h

theorem map_eq_ok {f : α → β} {b : β} (h : (f <$> x) s = .ok b s') :
    ∃ a, x s = .ok a s' ∧ b = f a := by
  cases hx : x s with
  | ok a s₁ =>
      rw [map_ok hx] at h
      cases h
      exact ⟨a, rfl, rfl⟩
  | error e s₁ =>
      rw [map_error hx] at h
      cases h

/-- An action that fails has failed in its first part, or in what follows it. -/
theorem bind_eq_error {k : α → Act σ β} {f : Failure}
    (h : (x >>= k) s = .error f s') :
    x s = .error f s' ∨ ∃ a s₁, x s = .ok a s₁ ∧ k a s₁ = .error f s' := by
  cases hx : x s with
  | ok a s₁ =>
      rw [bind_ok hx] at h
      exact Or.inr ⟨a, s₁, rfl, h⟩
  | error e s₁ =>
      rw [bind_error hx] at h
      cases h
      exact Or.inl rfl

theorem map_eq_error {f : α → β} {e : Failure} (h : (f <$> x) s = .error e s') :
    x s = .error e s' := by
  cases hx : x s with
  | ok a s₁ =>
      rw [map_ok hx] at h
      cases h
  | error e' s₁ =>
      rw [map_error hx] at h
      cases h
      rfl

theorem tryChange_eq_ok {f : σ → Except Failure σ} {u : Unit}
    (h : tryChange f s = .ok u s') :
    f s = .ok s' := by
  cases hf : f s with
  | ok s₁ =>
      rw [tryChange_ok hf] at h
      cases h
      rfl
  | error e =>
      rw [tryChange_error hf] at h
      cases h

theorem tryChange_eq_error {f : σ → Except Failure σ} {e : Failure}
    (h : tryChange f s = .error e s') : f s = .error e := by
  cases hf : f s with
  | ok s₁ =>
      rw [tryChange_ok hf] at h
      cases h
  | error e' =>
      rw [tryChange_error hf] at h
      cases h
      rfl

end Act

end SavingsClub
