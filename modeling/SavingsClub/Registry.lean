/-
A finite map that remembers the order in which its keys were first written.

A lookup finds what was last written under its key: `get?_put_self` and
`get?_put_of_ne` say all there is to say about `put` through `get?`.
-/
namespace SavingsClub

/-- A finite map from keys to values. -/
structure Registry (κ α : Type) where
  entries : List (κ × α)
  deriving DecidableEq, Repr

namespace Registry

variable {κ α : Type} [DecidableEq κ]

def empty : Registry κ α := ⟨[]⟩

def get? (r : Registry κ α) (k : κ) : Option α := r.entries.lookup k

def has (r : Registry κ α) (k : κ) : Bool := (r.get? k).isSome

/-- Entries with a value under a key: in the place of the old one, or else at
the end. -/
def putEntry (k : κ) (a : α) : List (κ × α) → List (κ × α)
  | [] => [(k, a)]
  | (l, b) :: r => if l = k then (k, a) :: r else (l, b) :: putEntry k a r

/-- Writes a value under a key. -/
def put (r : Registry κ α) (k : κ) (a : α) : Registry κ α :=
  ⟨putEntry k a r.entries⟩

@[simp] theorem get?_empty (k : κ) : (empty : Registry κ α).get? k = none := rfl

@[simp] theorem get?_put_self (r : Registry κ α) (k : κ) (a : α) :
    (r.put k a).get? k = some a := by
  obtain ⟨es⟩ := r
  simp only [put, get?]
  induction es with
  | nil => simp [putEntry]
  | cons e r ih =>
    obtain ⟨l, b⟩ := e
    by_cases h : l = k
    · simp [putEntry, h]
    · have hk : (k == l) = false := beq_eq_false_iff_ne.2 (Ne.symm h)
      simp [putEntry, h, List.lookup_cons, hk, ih]

theorem get?_put_of_ne (r : Registry κ α) {k l : κ} (a : α) (h : l ≠ k) :
    (r.put k a).get? l = r.get? l := by
  have hl : (l == k) = false := beq_eq_false_iff_ne.2 h
  obtain ⟨es⟩ := r
  simp only [put, get?]
  induction es with
  | nil => simp [putEntry, List.lookup_cons, hl]
  | cons e r ih =>
    obtain ⟨m, b⟩ := e
    by_cases hm : m = k
    · subst hm
      simp [putEntry, List.lookup_cons, hl]
    · simp [putEntry, hm, List.lookup_cons, ih]

end Registry

end SavingsClub
