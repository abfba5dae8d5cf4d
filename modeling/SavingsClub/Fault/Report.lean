/-
Reports of faults: the kind, the message and the values by name.

A report can be made for values of any type, whether or not the club itself
would ever meet them; for those that it meets, `Report.ofValues?_values` says
that the report is the fault's own.
-/
import SavingsClub.Fault
import SavingsClub.Text.Literal

namespace SavingsClub

/-- What is told of a fault. -/
structure Report where
  kind : Fault.Kind
  message : Text
  values : List Json
  deriving DecidableEq, Repr

namespace Fault.Kind

/-- The names of the values that a fault of this kind carries. -/
def valueNames : Kind → List String
  | alreadyInitialized | notInitialized => ["scheme_key"]
  | unauthorized | notAMember => ["principal"]
  | alreadyContributed => ["principal", "round_number"]
  | deadlinePassed | deadlineNotYetPassed => ["deadline", "now"]
  | insufficientFunds => ["holder", "required", "available"]
  | rosca | invalidParameters | maxRoundsReached | transfer
  | transferRejected => []

end Fault.Kind

namespace Report

def ofFault (f : Fault) : Report := ⟨f.kind, f.message, f.values⟩

/-- The report of a kind of fault with the given values, if they are as many as
the kind carries. A kind that is words takes what the values look like for its
words. -/
def ofValues? (k : Fault.Kind) (values : List Json) : Option Report :=
  let say (words : Text) : Option Report := some ⟨k, words, values⟩
  match k, values with
  | .alreadyInitialized, [s] => say (Fault.Wording.alreadyInitialized s.shown)
  | .notInitialized, [s] => say (Fault.Wording.notInitialized s.shown)
  | .unauthorized, [p] => say (Fault.Wording.unauthorized p.shown)
  | .notAMember, [p] => say (Fault.Wording.notAMember p.shown)
  | .alreadyContributed, [p, r] =>
    say (Fault.Wording.alreadyContributed p.shown r.shown)
  | .deadlinePassed, [d, n] =>
    say (Fault.Wording.deadlinePassed d.shown n.shown)
  | .deadlineNotYetPassed, [d, n] =>
    say (Fault.Wording.deadlineNotYetPassed d.shown n.shown)
  | .insufficientFunds, [h, r, a] =>
    say (Fault.Wording.insufficientFunds h.shown r.shown a.shown)
  | k, values =>
    if k.carriesWords then some ⟨k, Json.words values, []⟩ else none

def attributes (r : Report) : List (String × Json) :=
  r.kind.valueNames.zip r.values

def detail (r : Report) : Json :=
  .obj [("error", .text r.kind.name), ("message", .string r.message)]

end Report

end SavingsClub
