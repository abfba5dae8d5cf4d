/-
Which paths are known, and which methods each of them takes.
-/
import SavingsClub.Http.Request

namespace SavingsClub.Http

/-- What a path stands for. -/
inductive Resource where
  | root
  | health
  | scheme (id : String)
  | state (id : String)
  | contributions (id : String)
  | close (id : String)
  | events (id : String)
  | balance (asset holder : String)
  | minting (asset : String)
  deriving DecidableEq, Repr

/-- What a method does to a resource. -/
inductive Endpoint where
  | welcome
  | health
  | createScheme (id : String)
  | showScheme (id : String)
  | showState (id : String)
  | contribute (id : String)
  | closeRound (id : String)
  | listEvents (id : String)
  | showBalance (asset holder : String)
  | mint (asset : String)
  deriving DecidableEq, Repr

namespace Resource

/-- Whether the last segment of a path is a word; one line feed may follow
it. -/
def endsAs (word segment : String) : Bool :=
  segment = word || segment = word ++ "\n"

/-- The resource under a path. A name in a path is never empty. -/
def ofSegments? : List String → Option Resource
  | [s] =>
    if endsAs "" s then some root else if endsAs "health" s
      then some health else none
  | ["api", "schemes", id] => if id ≠ "" then some (scheme id) else none
  | ["api", "schemes", id, s] =>
    if id = "" then none
    else if endsAs "state" s then some (state id)
    else if endsAs "contributions" s then some (contributions id)
    else if endsAs "close" s then some (close id)
    else if endsAs "events" s then some (events id)
    else none
  | ["api", "assets", asset, s] =>
    if asset ≠ "" ∧ endsAs "mint" s then some (minting asset) else none
  | ["api", "assets", asset, "balances", holder] =>
    if asset ≠ "" ∧ holder ≠ "" then some (balance asset holder) else none
  | _ => none

def endpoint? : Resource → String → Option Endpoint
  | root, "GET" => some .welcome
  | health, "GET" => some .health
  | scheme id, "POST" => some (.createScheme id)
  | scheme id, "GET" => some (.showScheme id)
  | state id, "GET" => some (.showState id)
  | contributions id, "POST" => some (.contribute id)
  | close id, "POST" => some (.closeRound id)
  | events id, "GET" => some (.listEvents id)
  | balance asset holder, "GET" => some (.showBalance asset holder)
  | minting asset, "POST" => some (.mint asset)
  | _, _ => none

end Resource

end SavingsClub.Http
