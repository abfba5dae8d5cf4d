/-
The service: the office over HTTP.

A request is first read into a `Call`, which touches nothing, and the call is
then made on the office. What the office refuses is answered with the status of
its fault.
-/
import SavingsClub.Http.Body
import SavingsClub.Http.Route
import SavingsClub.Office

namespace SavingsClub.Http

/-- What a request asks for. -/
inductive Call where
  | welcome
  | health
  | scheme (id : Text) (op : Operation)
  | history (id : Text)
  | balance (asset holder : Text)
  | mint (asset holder : Text) (amount : Int)
  deriving DecidableEq, Repr

namespace Call

/-- The call that an endpoint makes of a request. -/
def ofEndpoint (r : Request) : Endpoint → Except Response Call
  | .welcome => .ok .welcome
  | .health => .ok .health
  | .createScheme id =>
    do return .scheme id (.establish (← Body.read Body.terms r.body))
  | .showScheme id => .ok (.scheme id .getScheme)
  | .showState id => .ok (.scheme id .getState)
  | .contribute id => do
    let contributor ← Body.read Body.contributor r.body
    return .scheme id (.contribute r.claimedCaller contributor)
  | .closeRound id => .ok (.scheme id (.closeRound r.claimedCaller))
  | .listEvents id => .ok (.history id)
  | .showBalance asset holder => .ok (.balance asset holder)
  | .mint asset => do
    let (holder, amount) ← Body.read Body.mint r.body
    return .mint asset holder amount

/-- The call that a request makes, or the answer to a request that makes
none. -/
def ofRequest (r : Request) : Except Response Call :=
  match Resource.ofSegments? r.path.segments with
  | none => .error .notFound
  | some resource =>
    match r.verb?.bind resource.endpoint? with
    | none => .error .methodNotAllowed
    | some endpoint => ofEndpoint r endpoint

end Call

namespace Response

/-- A record, with the names that the service gives to its scheme and its
account. -/
def schemeJson (settings : Settings) (id : Text) (s : Scheme) : Json :=
  .obj ([("scheme_id", .string id)] ++ s.fields ++
    [("custody_account", .string (settings.custodyAccount id))])

def entryJson (e : LogEntry) : Json :=
  .obj [("event_type", .text e.eventType), ("data", e.data)]

def balanceJson (asset holder : Text) (a : Answer) : Json :=
  .obj [("asset_id", .string asset), ("holder", .string holder),
    ("balance", a.toJson)]

/-- The body of an answer about a scheme. -/
def answerJson (settings : Settings) (id : Text) : Answer → Json
  | .scheme s => schemeJson settings id s
  | a => a.toJson

def historyJson : Answer → Json
  | .log l => .array (l.map entryJson)
  | a => a.toJson

def successStatus : Operation → Nat
  | .establish _ => 201
  | _ => 200

end Response

namespace Call

/-- Performs an operation on a scheme at `now`. -/
def performScheme (o : Office) (db : Database) (now : Int) (id : Text)
    (op : Operation) :
    Response × Database :=
  match o.settings with
  | .error _ => (.internalError, db)
  | .ok s =>
    match o.step db now (.scheme id op) with
    | (.ok a, db) =>
      (.json (Response.successStatus op) (Response.answerJson s id a), db)
    | (.error (.fault f), db) => (.ofFault f, db)
    | (.error _, db) => (.internalError, db)

/-- Mints at `now`, if the settings allow it. That a balance is too long is
reported nowhere else, so it would be for the answer to say, and the answer
cannot say it either. -/
def performMint (o : Office) (db : Database) (now : Int) (asset holder : Text)
    (amount : Int) :
    Response × Database :=
  match o.settings with
  | .error _ => (.serverError, db)
  | .ok s =>
    if s.allowMint then
      match o.step db now (.ledger (.mint asset holder amount)) with
      | (.ok a, db) => (.json 200 (Response.balanceJson asset holder a), db)
      | (.error (.fault f), db) =>
        (if f.isSpeakable then .detail 400 (.string f.message)
          else .internalError, db)
      | (.error (.storage .numeralTooLong), db) => (.serverError, db)
      | (.error _, db) => (.internalError, db)
    else (.detail 404 (.text "Not found"), db)

/-- Makes a call at `now`: the response, and the committed rows after it. -/
def perform (o : Office) (db : Database) (now : Int) :
    Call → Response × Database
  | .welcome =>
    (.json 200 (.obj [("message", .text "ROSCA API"), ("status", .text "ok")]),
      db)
  | .health => (.json 200 (.obj [("status", .text "healthy")]), db)
  | .scheme id op => performScheme o db now id op
  | .history id =>
    match o.step db now (.history id) with
    | (.ok a, db) => (.json 200 (Response.historyJson a), db)
    | (.error (.fault f), db) => (.ofFault f, db)
    | (.error _, db) => (.internalError, db)
  | .balance asset holder =>
    match o.step db now (.ledger (.balance asset holder)) with
    | (.ok a, db) => (.json 200 (Response.balanceJson asset holder a), db)
    | (.error _, db) => (.serverError, db)
  | .mint asset holder amount => performMint o db now asset holder amount

end Call

/-- Answers a request at `now`: the response, and the committed rows after it.
The answer to HEAD has no body. -/
def serve (o : Office) (db : Database) (now : Int) (r : Request) :
    Response × Database :=
  let (response, db) :=
    match Call.ofRequest r with
    | .error response => (response, db)
    | .ok call => call.perform o db now
  (if r.verb? = some "HEAD" then { response with content := .plain "" }
    else response, db)

end SavingsClub.Http
