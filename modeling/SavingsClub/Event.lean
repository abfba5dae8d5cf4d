/-
The audit log's entries: each tells one thing that happened to a scheme.
-/
import SavingsClub.Json.Basic

namespace SavingsClub

/-- What can happen to a scheme, with the values of the moment. -/
inductive Event where
  | schemeInitialized (admin : Text) (members : List Text)
      (contributionAmount : Int) (assetId : Text)
      (roundDuration roundDeadline : Int)
  | contributionReceived (roundNumber : Int) (contributor : Text) (amount : Int)
  | roundCompleted (roundNumber : Int) (recipient : Text) (pot : Int)
  | roundClosed (roundNumber : Int) (defaulters : List Text)
  deriving DecidableEq, Repr

/-- An entry as it is kept and shown: the name of its type, and its values by
name. -/
structure LogEntry where
  eventType : String
  data : Json
  deriving DecidableEq, Repr

/-- An entry as it is read where it was written. -/
def LogEntry.reread (e : LogEntry) : LogEntry :=
  { e with data := e.data.reread }

namespace Event

def typeName : Event → String
  | schemeInitialized .. => "SCHEME_INITIALIZED"
  | contributionReceived .. => "CONTRIBUTION_RECEIVED"
  | roundCompleted .. => "ROUND_COMPLETED"
  | roundClosed .. => "ROUND_CLOSED"

def data : Event → Json
  | schemeInitialized admin members amount asset duration deadline => .obj [
      ("admin", .string admin),
      ("members", .ofTexts members),
      ("contribution_amount", .integer amount),
      ("asset_id", .string asset),
      ("round_duration", .integer duration),
      ("round_deadline", .integer deadline)]
  | contributionReceived round contributor amount => .obj [
      ("round_number", .integer round),
      ("contributor", .string contributor),
      ("amount", .integer amount)]
  | roundCompleted round recipient pot => .obj [
      ("round_number", .integer round),
      ("recipient", .string recipient),
      ("pot", .integer pot)]
  | roundClosed round defaulters => .obj [
      ("round_number", .integer round),
      ("defaulters", .ofTexts defaulters)]

def entry (e : Event) : LogEntry := ⟨e.typeName, e.data⟩

end Event

end SavingsClub
