/-
Calls by position and by name, as far as a wrapper has to look at their
arguments.

Two wrappers stand around the operations on the database.
`Arguments.sessionMissing` is what a transaction says when it is given no
session, `Arguments.schemeMissing` what the lock of a scheme says when it is not
told which scheme.
-/
import SavingsClub.Text.Literal

namespace SavingsClub

structure Arguments where
  positional : List Json
  /-- By name, in the order given. -/
  named : List (Text × Json)
  deriving DecidableEq, Repr

namespace Arguments

/-- The arguments as a message shows them. -/
def shown (a : Arguments) : String :=
  "args=" ++ Json.literalArguments a.positional ++
    ", kwargs=" ++ (Json.object a.named).literal

/-- What is said of a call that was given no session. -/
def sessionMissing (a : Arguments) : String :=
  "@transactional requires 'db: Session' as first argument, but got " ++ a.shown

/-- What is said of a call that names no scheme. -/
def schemeMissing (a : Arguments) : String :=
  "@serialized requires 'scheme_id' as second argument, but got " ++ a.shown

/-- What is given in the place of a session: the argument named for it. Null is
nothing. -/
def session? (a : Arguments) : Option Json :=
  match a.named.lookup (.ofString "db") with
  | some .null => none
  | j => j

/-- The scheme that a call is about: the argument of that name, or else the
second one. -/
def scheme? (a : Arguments) : Option Json :=
  (a.named.lookup (.ofString "scheme_id")).or a.positional[1]?

end Arguments

end SavingsClub
