/-
What stands of the work of a session.

# The journal

A session goes on for many steps: calls, commits and rollbacks. Of its calls
those stand that succeeded and were committed, and those that have succeeded
since and that no rollback has undone (`Journal`). The journal is kept by what
the steps answer and by nothing else, so it knows nothing of rows.

# Rows and journal

`Mirrored` ties the two together through any relation between calls and rows:
the rows that a session works on are rows after the calls that stand, and the
committed rows are rows after those that are committed. If calls keep the
relation, so do commits and rollbacks, because a commit moves calls from one
list to the other and a rollback forgets them (`Mirrored.step`).
-/
import SavingsClub.Database.Session
import SavingsClub.Proofs.Course

namespace SavingsClub.Session

-- ================================================================= the journal

/-- The calls that are committed, and those that have succeeded since. -/
structure Journal (κ : Type) where
  committed : List κ
  pending : List κ
  deriving DecidableEq, Repr

namespace Journal

variable {κ : Type}

def empty : Journal κ := ⟨[], []⟩

/-- All calls that stand, in the order in which they were made. -/
def calls (j : Journal κ) : List κ := j.committed ++ j.pending

/-- Enters a step by what it answers. -/
def enter (j : Journal κ) : Step κ → Except Failure Answer → Journal κ
  | .call c, .ok _ => { j with pending := j.pending ++ [c] }
  | .commit, .ok _ => ⟨j.calls, []⟩
  | .rollback, .ok _ => { j with pending := [] }
  | _, .error _ => j

theorem calls_enter (j : Journal κ) (c : κ) (a : Answer) :
    (j.enter (.call c) (.ok a)).calls = j.calls ++ [c] := by
  show j.committed ++ (j.pending ++ [c]) = _
  rw [← List.append_assoc]
  rfl

theorem calls_commit (j : Journal κ) (a : Answer) :
    (j.enter .commit (.ok a)).calls = j.calls :=
  List.append_nil _

theorem calls_rollback (j : Journal κ) (a : Answer) :
    (j.enter .rollback (.ok a)).calls = j.committed := List.append_nil _

end Journal

/-- A session, and the journal of what it has done. -/
structure Logged (κ : Type) where
  session : Session
  journal : Journal κ

variable {κ : Type} {perform : κ → Act Database Answer} {db : Database}
  {x : Logged κ} {t : Step κ} {steps : List (Step κ)}

namespace Logged

/-- A session on a database in which nothing has been done yet. -/
def start (db : Database) : Logged κ := ⟨.start db, .empty⟩

/-- The session after a step, which is entered in the journal. -/
def step (perform : κ → Act Database Answer) (x : Logged κ) (t : Step κ) :
    Logged κ :=
  ⟨(x.session.step perform t).2, x.journal.enter t (x.session.step perform t).1⟩

/-- The session after some steps. -/
def after (perform : κ → Act Database Answer) (x : Logged κ)
    (steps : List (Step κ)) : Logged κ :=
  Course.after (step perform) x steps

theorem after_cons :
    x.after perform (t :: steps) = (x.step perform t).after perform steps :=
      Course.after_cons

/-- Something is true of every step where the steps before it have led. -/
def Along (perform : κ → Act Database Answer) (P : Logged κ → Step κ → Prop)
    (x : Logged κ) (steps : List (Step κ)) : Prop :=
  Course.Along (step perform) P x steps

end Logged

-- ============================================================ rows and journal

/-- What a call leaves where `calls` have led to the rows that it found: the
relation holds after it, whether it is made or refused, and no write fails. -/
def Keeps (R : List κ → Database → Prop) (calls : List κ) (c : κ) :
    EStateM.Result Failure Database Answer → Prop
  | .ok _ rows => R (calls ++ [c]) rows
  | .error (.storage _) _ => False
  | .error _ rows => R calls rows

/-- The rows of a session are those after the calls that stand. -/
structure Mirrored (R : List κ → Database → Prop) (x : Logged κ) : Prop where
  working : R x.journal.calls x.session.working
  committed : R x.journal.committed x.session.committed
  failed : x.session.failed = none

/-- A session in which no write has failed performs a call on its rows. -/
theorem step_call_ok {s : Session} {c : κ} {a : Answer} {rows : Database}
    (hs : s.failed = none) (h : perform c s.working = .ok a rows) :
    s.step perform (.call c) = (.ok a, { s with working := rows }) := by
  show s.run (perform c) = _
  unfold run
  rw [hs, h]

theorem step_call_error {s : Session} {c : κ} {f : Failure} {rows : Database}
    (hs : s.failed = none) (hf : ∀ g, f ≠ .storage g)
    (h : perform c s.working = .error f rows) :
    s.step perform (.call c) = (.error f, { s with working := rows }) := by
  show s.run (perform c) = _
  unfold run
  rw [hs, h]
  cases f with
  | storage g => exact absurd rfl (hf g)
  | fault | settings | unsearchable | noRecord | unspeakable => rfl

theorem step_commit {s : Session} (hs : s.failed = none) :
    s.step perform .commit = (.ok .done, s.commit) := by
  unfold Session.step
  rw [hs]

variable {R : List κ → Database → Prop}

/-- Every step keeps rows and journal together, if a call does. -/
theorem Mirrored.step (h : Mirrored R x)
    (hcall : ∀ c, t = .call c →
      Keeps R x.journal.calls c (perform c x.session.working)) :
    Mirrored R (x.step perform t) := by
  unfold Logged.step
  cases t with
  | call c =>
      have hkeeps := hcall c rfl
      cases hperform : perform c x.session.working with
      | ok a rows =>
          rw [hperform] at hkeeps
          rw [step_call_ok h.failed hperform]
          refine ⟨?_, h.committed, h.failed⟩
          rw [Journal.calls_enter]
          exact hkeeps
      | error f rows =>
          rw [hperform] at hkeeps
          -- after a write that fails the session would do nothing more
          have hf : ∀ g, f ≠ .storage g := by
            rintro g rfl
            exact hkeeps
          rw [step_call_error h.failed hf hperform]
          refine ⟨?_, h.committed, h.failed⟩
          cases f with
          | storage g => exact absurd rfl (hf g)
          | fault | settings | unsearchable | noRecord | unspeakable =>
              exact hkeeps
  | commit =>
      rw [step_commit h.failed]
      refine ⟨?_, h.working, rfl⟩
      rw [Journal.calls_commit]
      exact h.working
  | rollback =>
      refine ⟨?_, h.committed, rfl⟩
      show R (x.journal.enter .rollback (.ok .done)).calls _
      rw [Journal.calls_rollback]
      exact h.committed

/-- A session whose calls keep the relation has the rows of the calls that
stand. -/
theorem Mirrored.after {P : Logged κ → Step κ → Prop} (h : Mirrored R x)
    (hcall : ∀ (x : Logged κ) (c : κ), Mirrored R x → P x (.call c) →
      Keeps R x.journal.calls c (perform c x.session.working))
    (hsteps : Logged.Along perform P x steps) :
    Mirrored R (x.after perform steps) := by
  refine Course.keeps_of_along (P := Mirrored R) h ?_ hsteps
  intro x t h ht
  refine h.step ?_
  rintro c rfl
  exact hcall x c h ht

theorem mirrored_start (h : R [] db) : Mirrored R (.start db) := ⟨h, h, rfl⟩

end SavingsClub.Session
