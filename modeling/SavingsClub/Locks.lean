/-
One lock for each scheme.

Locks are made when they are first asked for and never given up, so a lock's
place in the order of making is its identity. A serialized call holds the lock
of its scheme while its body runs, and no longer, however the body ends.
-/
import SavingsClub.Arguments
import SavingsClub.Locks.Key

namespace SavingsClub

/-- The lock of the scheme with a key. -/
structure Lock where
  key : LockKey
  held : Bool
  deriving DecidableEq, Repr

/-- The locks, in the order in which they were made. -/
structure Locks where
  made : List Lock
  deriving DecidableEq, Repr

/-- Why a serialized call is refused. -/
inductive LockRefusal where
  | schemeMissing (a : Arguments)
  | notAKey (id : Json)
  deriving DecidableEq, Repr

namespace Locks

def empty : Locks := ⟨[]⟩

/-- Where the lock under a key stands, if it has been made. -/
def place? (l : Locks) (key : LockKey) : Option Nat :=
  l.made.findIdx? (·.key = key)

/-- The lock under a key, which is made if need be: its place, and the locks
after it. -/
def lookup (l : Locks) (key : LockKey) : Nat × Locks :=
  match l.place? key with
  | some i => (i, l)
  | none => (l.made.length, ⟨l.made ++ [⟨key, false⟩]⟩)

/-- Takes or gives back the lock at a place. -/
def setHeld (l : Locks) (i : Nat) (held : Bool) : Locks :=
  ⟨l.made.modify i fun k => { k with held := held }⟩

/-- Whether the lock under a key is held; a lock that has not been made is
free. -/
def isHeld (l : Locks) (key : LockKey) : Bool :=
  l.made.any fun k => k.key = key && k.held

/-- Runs the body of a call under the lock of the scheme that the call is about.
The body gets the arguments as they are, and sees the locks as they are
meanwhile. A call that names no scheme, or names it by what is no key, is
refused, and the body is not run. Calls do not nest. -/
def serialized {α : Type} (l : Locks) (a : Arguments)
    (body : Arguments → Locks → α) :
    Except LockRefusal α × Locks :=
  match a.scheme? with
  | none => (.error (.schemeMissing a), l)
  | some id =>
    match LockKey.ofJson? id with
    | none => (.error (.notAKey id), l)
    | some key =>
      let (i, l) := l.lookup key
      let taken := l.setHeld i true
      (.ok (body a taken), taken.setHeld i false)

/-- The places of the locks under several keys, asked for one after the
other. -/
def lookupAll (l : Locks) : List LockKey → List Nat
  | [] => []
  | key :: keys =>
    let (i, l) := l.lookup key
    i :: l.lookupAll keys

end Locks

end SavingsClub
