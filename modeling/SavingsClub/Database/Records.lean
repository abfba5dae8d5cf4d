/-
Sessions in which records are read and written.

A record goes into the row under its key, and a key without a row gets one
first. If there turns out to be no record to put there, the row is left
unfinished. No search finds it, but the next write has to write it too, and
fails. Rows that were there before are written first, so whatever is wrong with
one of them is found before the unfinished row is. Only a rollback removes it.
-/
import SavingsClub.Database.Session

namespace SavingsClub

/-- A session, and whether it has left a row unfinished. -/
structure RecordSession where
  session : Session
  unfinished : Bool
  deriving DecidableEq, Repr

namespace RecordSession

/-- A session in which nothing has been done yet. -/
def start (db : Database) : RecordSession := ⟨.start db, false⟩

/-- Writes what is due when a row is unfinished: of a record to be kept, only
the row that is there already can come first. -/
def writeUnfinished : StoreCall → Act Database Answer
  | .set key (some s) => do
    if ← Database.backend.has key then Database.backend.set key s
    throw (.storage .rowUnfinished)
  | c => c.perform Database.backend

/-- Performs a call on the session's rows. -/
def perform (unfinished : Bool) (c : StoreCall) : Act Database Answer :=
  if unfinished then writeUnfinished c else c.perform Database.backend

/-- Whether a call that is answered so has begun a row: it found no record to
keep, and no row under its key. -/
def begins (db : Database) : StoreCall → Except Failure Answer → Bool
  | .set key none, .error .noRecord => (db.scheme? key).isNone
  | _, _ => false

def step (s : RecordSession) :
    Session.Step StoreCall → Except Failure Answer × RecordSession
  | .call c =>
    let (r, after) := s.session.run (perform s.unfinished c)
    (r, ⟨after, s.unfinished || begins s.session.working c r⟩)
  | .commit =>
    if s.unfinished then
      let (r, after) := s.session.run (throw (.storage .rowUnfinished))
      (r, { s with session := after })
    else
      let (r, after) := s.session.step (perform false) .commit
      (r, { s with session := after })
  | .rollback => (.ok .done, start s.session.committed)

end RecordSession

end SavingsClub
