/-
Sessions on the database, and transactions.

A session works on a copy of the committed rows. A commit makes its work the
committed rows, a rollback gives it up. A write that fails takes all work since
the last commit with it, and the session does nothing more until it is rolled
back, but reports that failure whenever it is asked to; a search that fails does
no harm. A transaction runs an action in a session and commits exactly if the
action succeeds. It may report its failure on top; what cannot be reported then
counts as a failure of its own.
-/
import SavingsClub.Database.Basic

namespace SavingsClub

/-- What is left of a failure once it is reported: the report that a numeral is
too long would hold the numeral. -/
def Failure.reported : Failure → Failure
  | .storage .numeralTooLong => .unspeakable
  | f => f

/-- How a session fails while it awaits a rollback: it reports the write that
failed. -/
def StorageFault.pending : StorageFault → Failure
  | numeralTooLong => .unspeakable
  | _ => .storage .rollbackPending

/-- The committed rows, and those that a session has made of them. -/
structure Session where
  committed : Database
  working : Database
  /-- Why a write has failed, if no rollback has followed yet. -/
  failed : Option StorageFault
  deriving DecidableEq, Repr

namespace Session

def start (db : Database) : Session := ⟨db, db, none⟩

def commit (s : Session) : Session := .start s.working

def rollback (s : Session) : Session := .start s.committed

/-- Runs an action on the session's rows; what it did stays if it is refused. -/
def run {α : Type} (s : Session) (act : Act Database α) :
    Except Failure α × Session :=
  match s.failed with
  | some f => (.error f.pending, s)
  | none =>
    match act s.working with
    | .ok a db => (.ok a, { s with working := db })
    | .error (.storage f) _ =>
      (.error (.storage f), ⟨s.committed, s.committed, some f⟩)
    | .error f db => (.error f, { s with working := db })

/-- Runs an action and commits, or rolls back and passes the failure on. -/
def transact {α : Type} (s : Session) (act : Act Database α) :
    Except Failure α × Session :=
  match s.run act with
  | (.ok a, s) => (.ok a, s.commit)
  | (.error f, s) => (.error f, s.rollback)

/-- What can be done in an open session, with calls of type `κ`. -/
inductive Step (κ : Type) where
  | call (c : κ)
  | commit
  | rollback
  deriving DecidableEq, Repr

def step {κ : Type} (perform : κ → Act Database Answer) (s : Session) :
    Step κ → Except Failure Answer × Session
  | .call c => s.run (perform c)
  | .commit =>
    match s.failed with
    | some f => (.error f.pending, s)
    | none => (.ok .done, s.commit)
  | .rollback => (.ok .done, s.rollback)

end Session

namespace Database

/-- Runs an action as a transaction in a session of its own. -/
def transaction {α : Type} (db : Database) (act : Act Database α) :
    Except Failure α × Database :=
  let (result, s) := (Session.start db).transact act
  (result, s.committed)

/-- Runs an action as a transaction that reports its failure. -/
def reportedTransaction {α : Type} (db : Database) (act : Act Database α) :
    Except Failure α × Database :=
  let (result, db) := db.transaction act
  (result.mapError Failure.reported, db)

/-- Runs an action in a session that is closed without a commit. -/
def peek {α : Type} (db : Database) (act : Act Database α) :
    Except Failure α × Database :=
  let (result, s) := (Session.start db).run act
  (result, s.committed)

/-- A transaction that fails changes nothing, and one that succeeds leaves what
its action did. -/
theorem transaction_eq {α : Type} (db : Database) (act : Act Database α) :
    db.transaction act =
      match act db with
      | .ok a db' => (.ok a, db')
      | .error f _ => (.error f, db) := by
  simp only [transaction, Session.transact, Session.run, Session.start]
  cases act db with
  | ok => rfl
  | error f => cases f <;> rfl

/-- Peeking changes nothing. -/
theorem peek_snd {α : Type} (db : Database) (act : Act Database α) :
    (db.peek act).2 = db := by
  simp only [peek, Session.run, Session.start]
  cases act db with
  | ok => rfl
  | error f => cases f <;> rfl

end Database

end SavingsClub
