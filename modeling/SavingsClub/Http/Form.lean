/-
Reading the fields of a request's body.

A field is read leniently where its meaning is beyond doubt: an integer may also
come as a whole float, as a truth value or as a decimal numeral in a string.
What cannot be read is complained of, all complaints together, in the order of
the fields.
-/
import SavingsClub.Http.Numeral
import SavingsClub.Json.Basic

namespace SavingsClub.Http

/-- What is wrong with a value. -/
inductive Problem where
  | missing
  | notJson
  | notAnObject
  | notAString
  | notAList
  | notAnInteger
  | fractional
  /-- A string that is no numeral. -/
  | notANumeral
  /-- A float or a numeral beyond what is read. -/
  | tooLarge
  | notFinite
  deriving DecidableEq, Repr

namespace Problem

def typeName : Problem → String
  | missing => "missing"
  | notJson => "json_invalid"
  | notAnObject => "model_attributes_type"
  | notAString => "string_type"
  | notAList => "list_type"
  | notAnInteger => "int_type"
  | fractional => "int_from_float"
  | notANumeral => "int_parsing"
  | tooLarge => "int_parsing_size"
  | notFinite => "finite_number"

def message : Problem → String
  | missing => "Field required"
  | notJson => "JSON decode error"
  | notAnObject =>
    "Input should be a valid dictionary or object to extract fields from"
  | notAString => "Input should be a valid string"
  | notAList => "Input should be a valid list"
  | notAnInteger => "Input should be a valid integer"
  | fractional =>
    "Input should be a valid integer, got a number with a fractional part"
  | notANumeral =>
    "Input should be a valid integer, unable to parse string as an integer"
  | tooLarge =>
    "Unable to parse input string as an integer, exceeded maximum size"
  | notFinite => "Input should be a finite number"

end Problem

/-- A problem, where it is, and the value it is a problem of. -/
structure Complaint where
  problem : Problem
  place : List Json
  value : Json
  deriving DecidableEq, Repr

namespace Complaint

/-- A complaint as it is reported; the value itself is left out. -/
def toJson (c : Complaint) : Json := .obj [
  ("type", .text c.problem.typeName),
  ("loc", .array c.place),
  ("msg", .text c.problem.message)]

end Complaint

/-- A value that was read, or all that is wrong with it. -/
abbrev Checked (α : Type) := Except (List Complaint) α

namespace Checked

/-- Two values, each read by itself; complaints add up. -/
def both {α β : Type} (x : Checked α) (y : Checked β) : Checked (α × β) :=
  match x, y with
  | .ok a, .ok b => .ok (a, b)
  | .ok _, .error e => .error e
  | .error e, .ok _ => .error e
  | .error e, .error e' => .error (e ++ e')

def fail {α : Type} (p : Problem) (place : List Json) (value : Json) :
    Checked α :=
  .error [⟨p, place, value⟩]

end Checked

namespace Form

/-- Reads an integer, leniently. A float counts as the binary64 number nearest
to it. -/
def integer (place : List Json) : Json → Checked Int
  | .integer n => .ok n
  | .bool b => .ok (if b then 1 else 0)
  | j@(.decimal d) =>
    match d.nearest with
    | .infinite _ => Checked.fail .notFinite place j
    | b =>
      match b.whole? with
      | none => Checked.fail .fractional place j
      | some n =>
        if n.natAbs < Nat.pow 2 63 then .ok n
        else Checked.fail .tooLarge place j
  | j@(.nonFinite _) => Checked.fail .notFinite place j
  | j@(.string t) =>
    match Numeral.read t with
    | .ok n => .ok n
    | .error .malformed => Checked.fail .notANumeral place j
    | .error .tooLong => Checked.fail .tooLarge place j
  | j => Checked.fail .notAnInteger place j

def string (place : List Json) : Json → Checked Text
  | .string t => .ok t
  | j => Checked.fail .notAString place j

/-- The strings of a list, whose places are counted from `i`. -/
def stringItems (place : List Json) (i : Nat) : List Json → Checked (List Text)
  | [] => .ok []
  | j :: r =>
    (Checked.both (string (place ++ [.integer i]) j)
      (stringItems place (i + 1) r)).map fun p => p.1 :: p.2

def strings (place : List Json) : Json → Checked (List Text)
  | .array items => stringItems place 0 items
  | j => Checked.fail .notAList place j

def field {α : Type} (read : List Json → Json → Checked α) (name : String)
    (body : Json) :
    Checked α :=
  let place := [Json.text "body", .text name]
  match body.field? name with
  | some j => read place j
  | none => Checked.fail .missing place body

end Form

end SavingsClub.Http
