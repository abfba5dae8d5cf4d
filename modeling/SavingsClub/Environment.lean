/-
The environment: variables and their values.

Both are octets that a zero ends, and an equals sign ends the name, so neither
can hold a zero, and a name can hold no equals sign. What is read is the text
that holds the octets, which may differ from the text that was set.
-/
import SavingsClub.Text.Octets

namespace SavingsClub

/-- A variable as it is read. -/
structure Variable where
  name : Text
  value : Text
  deriving DecidableEq, Repr

/-- The variables, in the order in which they were set. -/
structure Environment where
  entries : List Variable
  deriving DecidableEq, Repr

inductive EnvironmentFault where
  /-- A text that is no octets. -/
  | torn (t : Text.Tear)
  | zeroInside
  | equalsSignInName
  | nameEmpty
  deriving DecidableEq, Repr

/-- What is said of a fault. An empty name is refused without a word. -/
def EnvironmentFault.message? : EnvironmentFault → Option Text
  | torn t => some t.message
  | zeroInside => some "embedded null byte"
  | equalsSignInName => some "illegal environment variable name"
  | nameEmpty => none

namespace Environment

/-- A name and a value as they are read once they have been set. -/
def kept (name value : Text) : Except EnvironmentFault Variable := do
  let n ← name.toOctets.mapError .torn
  let v ← value.toOctets.mapError .torn
  if 0 ∈ n ∨ 0 ∈ v then throw .zeroInside
  if 0x3D ∈ n then throw .equalsSignInName
  if n.isEmpty then throw .nameEmpty
  return ⟨.ofOctets n, .ofOctets v⟩

/-- The environment after names and values have been set, one pair after
another. -/
def ofPairs (pairs : List (Text × Text)) :
    Except EnvironmentFault Environment := do
  return ⟨← pairs.mapM fun (name, value) => kept name value⟩

end Environment

end SavingsClub
