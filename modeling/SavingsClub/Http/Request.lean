/-
Requests, and what the service reads in them.
-/
import SavingsClub.Http.Path
import SavingsClub.Text.Capital

namespace SavingsClub.Http

/-- A request as the client means it. -/
structure Request where
  method : Text
  path : Path
  caller : Option String
  /-- The text of the body; without a body it is empty. -/
  body : String
  deriving DecidableEq, Repr

namespace Request

/-- The method, which is known in any letter case. A torn text is no method. -/
def verb? (r : Request) : Option String := r.method.toString?.map Text.capitals

/-- The caller as the service reads it: the client sends UTF-8, and a header is
read one character for each octet. -/
def claimedCaller (r : Request) : Option Text :=
  r.caller.map fun c => Text.ofLatin1 (Text.utf8 c)

end Request

end SavingsClub.Http
