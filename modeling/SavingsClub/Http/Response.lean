/-
Responses.

Not every value can be shown in a JSON response: its numbers must be finite, its
strings must consist of characters, and a value that is complained of must not
be nested too deeply. A response that holds any other value, be it only the
value that a complaint is about, turns into a bare 500.
-/
import SavingsClub.Fault.Report
import SavingsClub.Http.Form

namespace SavingsClub.Http

/-- The body of a response. -/
inductive Content where
  | json (j : Json)
  | plain (s : String)
  deriving DecidableEq, Repr

/-- A status and a body. -/
structure Response where
  status : Nat
  content : Content
  deriving DecidableEq, Repr

-- =========================================================== what can be shown

mutual

/-- Whether a response can show a value: all its numbers are finite and all its
strings consist of characters. -/
def presentable : Json → Bool
  | .null | .bool _ | .integer _ => true
  | .decimal d =>
    match d.nearest with
    | .finite _ _ => true
    | .infinite _ => false
  | .nonFinite _ => false
  | .string t => t.isWhole
  | .array items => presentableItems items
  | .object members => presentableMembers members

def presentableItems : List Json → Bool
  | [] => true
  | j :: r => presentable j && presentableItems r

def presentableMembers : List (Text × Json) → Bool
  | [] => true
  | (k, j) :: r => k.isWhole && presentable j && presentableMembers r

end

@[simp] theorem presentableItems_eq (l : List Json) :
    presentableItems l = l.all presentable := by
  induction l with
  | nil => rfl
  | cons j l ih => rw [presentableItems, ih, List.all_cons]

/-- An object with names in characters can be shown if all its values can. -/
@[simp] theorem presentable_obj (l : List (String × Json)) :
    presentable (.obj l) = l.all fun m => presentable m.2 := by
  rw [Json.obj, presentable]
  induction l with
  | nil => rfl
  | cons m l ih =>
    rw [List.map_cons, presentableMembers, Text.isWhole_ofString, Bool.true_and,
      ih, List.all_cons]

@[simp] theorem presentable_text (s : String) : presentable (.text s) = true :=
  Text.isWhole_ofString s

@[simp] theorem presentable_ofTexts (l : List Text) :
    presentable (.ofTexts l) = l.all Text.isWhole := by
  rw [Json.ofTexts, presentable, presentableItems_eq, List.all_map]
  rfl

/-- Whether a member of an object is left out when a complaint shows its
value. -/
def isHidden (name : Text) : Bool := name.startsWith "_sa"

mutual

/-- A value as a complaint shows it: without hidden members, at any depth. -/
def shown : Json → Json
  | .array items => .array (shownItems items)
  | .object members => .object (shownMembers members)
  | j => j

def shownItems : List Json → List Json
  | [] => []
  | j :: r => shown j :: shownItems r

def shownMembers : List (Text × Json) → List (Text × Json)
  | [] => []
  | (k, j) :: r =>
    if isHidden k then shownMembers r else (k, shown j) :: shownMembers r

end

-- =================================================================== responses

namespace Response

/-- The answer when not even a report can be made. -/
def serverError : Response := ⟨500, .plain "Internal Server Error"⟩

/-- An answer in JSON, if it can be shown. -/
def json (status : Nat) (j : Json) : Response :=
  if presentable j then ⟨status, .json j⟩ else serverError

/-- An answer that only says what happened. -/
def detail (status : Nat) (j : Json) : Response :=
  json status (.obj [("detail", j)])

def notFound : Response := detail 404 (.text "Not Found")

def methodNotAllowed : Response := detail 405 (.text "Method Not Allowed")

/-- The answer to a body that cannot be read though it may be JSON. -/
def unreadable : Response :=
  detail 400 (.text "There was an error parsing the body")

/-- The answer when an operation fails for a reason that is not the club's. -/
def internalError : Response := detail 500 (.text "Internal error")

/-- The answer to a request that a fault of the club's refuses; one whose
message cannot be written is no better than a failure of another kind. -/
def ofFault (f : Fault) : Response :=
  if f.isSpeakable then detail f.kind.status (Report.ofFault f).detail
  else internalError

/-- The most levels of arrays and objects in a value that a complaint shows. -/
def shownDepth : Nat := 962

/-- Whether a complaint can show a value. -/
def canShow (j : Json) : Bool :=
  let s := shown j
  presentable s && s.depth ≤ shownDepth

/-- The answer to a body that is complained of. -/
def ofComplaints (l : List Complaint) : Response :=
  if l.all fun c => canShow c.value then
    detail 422 (.array (l.map Complaint.toJson))
  else serverError

end Response

end SavingsClub.Http
