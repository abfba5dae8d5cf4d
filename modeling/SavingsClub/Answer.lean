/-
What operations answer, and the JSON form of every record that is shown.
-/
import SavingsClub.Event
import SavingsClub.Ledger
import SavingsClub.Scheme

namespace SavingsClub

/-- What an operation answers. -/
inductive Answer where
  | done
  | truth (b : Bool)
  | amount (n : Int)
  | names (l : List Text)
  | scheme (s : Scheme)
  /-- A record that need not be there. -/
  | record (s : Option Scheme)
  | state (s : RoundState)
  | closure (c : Closure)
  | log (l : List LogEntry)
  deriving DecidableEq, Repr

/-- The fields of a record, by name. -/
def Scheme.fields (s : Scheme) : List (String × Json) := [
  ("admin", .string s.admin),
  ("members", .ofTexts s.members),
  ("contribution_amount", .integer s.contributionAmount),
  ("asset_id", .string s.assetId),
  ("round_duration", .integer s.roundDuration),
  ("round_deadline", .integer s.roundDeadline),
  ("current_round", .integer s.currentRound),
  ("paid_members", .ofTexts s.paidMembers),
  ("defaulters", .ofTexts s.defaulters)]

def Scheme.toJson (s : Scheme) : Json := .obj s.fields

/-- A record in short: the fields that change, without their names. -/
def Scheme.snapshot (s : Scheme) : Json := .array [
  .integer s.currentRound,
  .ofTexts s.paidMembers,
  .integer s.roundDeadline,
  .ofTexts s.defaulters]

def RoundState.toJson (s : RoundState) : Json := .obj [
  ("current_round", .integer s.currentRound),
  ("paid_members", .ofTexts s.paidMembers),
  ("round_deadline", .integer s.roundDeadline)]

def Closure.toJson (c : Closure) : Json := .obj [
  ("round_number", .integer c.roundNumber),
  ("defaulters", .ofTexts c.defaulters),
  ("state", c.state.toJson)]

def LogEntry.toPair (e : LogEntry) : Json := .array [.text e.eventType, e.data]

def Holding.toJson (h : Holding) : Json :=
  .array [.string h.asset, .string h.holder, .integer h.amount]

def Transfer.toJson (t : Transfer) : Json :=
  .array [.string t.asset, .string t.sender, .string t.recipient,
    .integer t.amount]

/-- An answer as it is shown; an operation that only does something shows
nothing. -/
def Answer.toJson : Answer → Json
  | done => .null
  | truth b => .bool b
  | amount n => .integer n
  | names l => .ofTexts l
  | scheme s => s.toJson
  | record none => .null
  | record (some s) => s.toJson
  | state s => s.toJson
  | closure c => c.toJson
  | log l => .array (l.map LogEntry.toPair)

end SavingsClub
