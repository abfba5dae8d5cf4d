/-
A client of the records, with one record in hand.

In hand is the record that the client last wrote or looked up. It is the
client's own copy: changing it changes nothing that is kept until it is put
back.
-/
import SavingsClub.Database.Session

namespace SavingsClub

/-- A place that keeps records, and the record that its client has in hand. -/
structure Client (σ : Type) where
  place : σ
  held : Option Scheme
  deriving DecidableEq, Repr

namespace Client

inductive Step where
  /-- A call on the records, a commit or a rollback. -/
  | store (t : Session.Step StoreCall)
  | putBack (key : Text)
  | edit (e : Edit) (more : Additions)
  deriving DecidableEq, Repr

variable {σ : Type}

/-- What is in hand after a step that is answered so: a record that was to be
kept, whether it could be kept or not, or what a search has found. -/
def heldAfter (held : Option Scheme) :
    Session.Step StoreCall → Except Failure Answer → Option Scheme
  | .call (.set _ s), _ => s
  | .call (.get _), .ok (.record s) => s
  | _, _ => held

/-- What a step answers, and the client after it; `run` is how the place takes a
step. -/
def step (run : σ → Session.Step StoreCall → Except Failure Answer × σ)
    (c : Client σ) :
    Step → Except Failure Answer × Client σ
  | .store t =>
    let (r, place) := run c.place t
    (r, ⟨place, heldAfter c.held t r⟩)
  | .putBack key =>
    let (r, place) := run c.place (.call (.set key c.held))
    (r, { c with place })
  | .edit e more =>
    match c.held with
    | some s =>
      let s := (s.edit e).extend more
      (.ok (.record s), { c with held := s })
    | none => (.error .noRecord, c)

end Client

end SavingsClub
