/-
Batches of mints that are kept or given up together.

A batch is handed a session of its own, and with it is a transaction: either all
its mints are committed or none is. Without a session it does not run, nor with
something else in its place.
-/
import SavingsClub.Arguments
import SavingsClub.Database.Session

namespace SavingsClub

/-- Mints in order, and what comes of them: words to fail with, or an answer. -/
structure Batch where
  mints : List Holding
  failing : Option Text
  answer : Json
  deriving DecidableEq, Repr

/-- How a session is handed to a call. -/
inductive Handover where
  | positional
  | named
  /-- Not at all; these are the arguments there were. -/
  | absent (a : Arguments)
  deriving DecidableEq, Repr

/-- Why a batch came to nothing. -/
inductive BatchFailure where
  | sessionMissing (a : Arguments)
  /-- What stands in the place of the session is none. -/
  | notASession
  | failure (f : Failure)
  deriving DecidableEq, Repr

namespace Batch

/-- The mints, and then the end that the batch comes to. -/
def act (b : Batch) : Act Database Json := do
  b.mints.forM fun m => Database.backend.mint m.asset m.holder m.amount
  match b.failing with
  | some words => Act.refuse (.transferRejected (.stated words))
  | none => return b.answer

/-- What a batch answers, and the committed rows after it. -/
def run (b : Batch) (db : Database) :
    Handover → Except BatchFailure Json × Database
  | .positional | .named =>
    match db.reportedTransaction b.act with
    | (.ok j, db) => (.ok j, db)
    | (.error f, db) => (.error (.failure f), db)
  | .absent a =>
    match a.session? with
    | some _ => (.error .notASession, db)
    | none => (.error (.sessionMissing a), db)

end Batch

end SavingsClub
