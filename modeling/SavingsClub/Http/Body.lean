/-
The bodies that requests carry.

A body is JSON in UTF-8, UTF-16 or UTF-32; its first octets tell which. It may
begin with a byte order mark, if it is in UTF-8.
-/
import SavingsClub.Http.Response
import SavingsClub.Json.Reader
import SavingsClub.Scheme.Terms
import SavingsClub.Text.Encoding
import SavingsClub.Text.Utf8

namespace SavingsClub.Http.Body

/-- How long the integers of a body may be, how deeply its arrays and objects
may stand in each other, and how deep inside them a fault can be told. -/
def bounds : Json.Bounds := ⟨maxDigits, 967, 964⟩

def place : List Json := [.text "body"]

/-- A text without the byte order mark it may begin with. -/
def withoutMark (t : Text) : Text :=
  match t.points with
  | 0xFEFF :: r => ⟨r⟩
  | _ => t

/-- The text of a body, if it is text in the encoding that its octets seem to be
in. -/
def text? (s : String) : Option Text :=
  let octets := Text.utf8 s
  match Text.Encoding.ofJson octets with
  | .utf8 => some (withoutMark s)
  | .utf16 order => Text.ofUtf16? order octets
  | .utf32 order => Text.ofUtf32? order octets

/-- The value that a body holds. -/
def value (s : String) : Except Response Json :=
  match text? s with
  | none => .error .unreadable
  | some t =>
    match Json.parse bounds t with
    | .ok j => .ok j
    | .error .malformed => .error (.ofComplaints [⟨.notJson, place, .obj []⟩])
    | .error .oversized | .error .tooDeep => .error .unreadable

/-- The object that a body holds. No body and a null body are the same. -/
def object (s : String) : Except Response Json := do
  let missing := Response.ofComplaints [⟨.missing, place, .null⟩]
  if s.isEmpty then throw missing
  match ← value s with
  | .null => throw missing
  | .object members => return .object members
  | j => throw (.ofComplaints [⟨.notAnObject, place, j⟩])

/-- Terms, from an object with a field for each of them. -/
def terms (j : Json) : Checked Terms :=
  let fields :=
    Checked.both (Form.field Form.string "admin" j) <|
    Checked.both (Form.field Form.strings "members" j) <|
    Checked.both (Form.field Form.integer "contribution_amount" j) <|
    Checked.both (Form.field Form.string "asset_id" j) <|
    Form.field Form.integer "round_duration" j
  fields.map fun (admin, members, amount, asset, duration) =>
    ⟨admin, members, .integer amount, asset, .integer duration⟩

def contributor (j : Json) : Checked Text :=
  Form.field Form.string "contributor" j

def mint (j : Json) : Checked (Text × Int) :=
  Checked.both (Form.field Form.string "holder" j)
    (Form.field Form.integer "amount" j)

/-- What a reader makes of a body. -/
def read {α : Type} (reader : Json → Checked α) (s : String) :
    Except Response α := do
  let j ← object s
  match reader j with
  | .ok a => return a
  | .error l => .error (.ofComplaints l)

end SavingsClub.Http.Body
