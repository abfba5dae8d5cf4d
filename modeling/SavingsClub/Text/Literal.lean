/-
Values as literals: the form in which a message shows the arguments of a call.

Words are capitalised (`None`, `True`), a string stands in single quotes unless
only double quotes spare it an escape, lists stand in brackets, mappings in
braces, argument lists in parentheses with a comma after a single one. A number
with a fraction is shown by the shortest decimal that reads back.
-/
import SavingsClub.Decimal.Shortest
import SavingsClub.Json.Basic
import SavingsClub.Text.Printable

namespace SavingsClub.Text

/-- The lower-case hexadecimal digits of a number, at least `width` of them. -/
def hex (width n : Nat) : List Char :=
  let digits := Nat.toDigits 16 n
  List.replicate (width - digits.length) '0' ++ digits

/-- A code point inside quotes of the given kind. -/
def literalPoint (quote : Char) (n : Nat) : List Char :=
  if n = quote.toNat ∨ n = '\\'.toNat then ['\\', Char.ofNat n]
  else if n = '\n'.toNat then ['\\', 'n']
  else if n = '\r'.toNat then ['\\', 'r']
  else if n = '\t'.toNat then ['\\', 't']
  else if isPrintable n then [Char.ofNat n]
  else if n < 0x100 then '\\' :: 'x' :: hex 2 n
  else if n < 0x10000 then '\\' :: 'u' :: hex 4 n
  else '\\' :: 'U' :: hex 8 n

/-- A text in quotes. -/
def literal (t : Text) : String :=
  let quote := if '\''.toNat ∈ t.points ∧ '"'.toNat ∉ t.points
    then '"' else '\''
  String.ofList (quote :: t.points.flatMap (literalPoint quote) ++ [quote])

end SavingsClub.Text

namespace SavingsClub.Decimal

/-- The digits of a natural number with a point after the first `places` of
them; zeros stand where there is no digit, and at least one digit stands on each
side of the point. -/
def pointed (digits : List Char) (places : Int) : List Char :=
  if places ≤ 0 then '0' :: '.' :: List.replicate (-places).toNat '0' ++ digits
  else
    let whole := digits.take places.toNat
    let rest := digits.drop places.toNat
    whole ++ List.replicate (places.toNat - digits.length) '0' ++
      '.' :: (if rest.isEmpty then ['0'] else rest)

/-- A magnitude by its digits: with a point while the first of them stands
between 10 ^ -4 and 10 ^ 15, with a power of ten beyond. -/
def shown (d : Decimal) : List Char :=
  let digits := Nat.toDigits 10 d.significand
  let kept := (digits.reverse.dropWhile (· = '0')).reverse
  let places : Int := digits.length + d.exponent
  if -4 < places ∧ places ≤ 16 then pointed kept places
  else
    let power := places - 1
    let powerDigits := Nat.toDigits 10 power.natAbs
    let tail := (if kept.length ≤ 1 then [] else '.' :: kept.drop 1) ++
      'e' :: (if power < 0 then '-' else '+') ::
        (List.replicate (2 - powerDigits.length) '0' ++ powerDigits)
    kept.take 1 ++ tail

/-- A decimal as a literal: the binary64 number nearest to it, by its shortest
digits. -/
def literal (d : Decimal) : String :=
  let sign := if d.negative then "-" else ""
  match d.nearest.shortest? with
  | none => sign ++ "inf"
  | some s =>
    if s.significand = 0 then sign ++ "0.0" else sign ++ String.ofList s.shown

end SavingsClub.Decimal

namespace SavingsClub.Json

def NonFinite.literal : NonFinite → String
  | .nan => "nan"
  | .infinity => "inf"
  | .negativeInfinity => "-inf"

mutual

def literal : Json → String
  | .null => "None"
  | .bool b => if b then "True" else "False"
  | .integer n => toString n
  | .decimal d => d.literal
  | .nonFinite n => NonFinite.literal n
  | .string t => t.literal
  | .array items => "[" ++ ", ".intercalate (literalItems items) ++ "]"
  | .object members =>
    "\x7b" ++ ", ".intercalate (literalMembers members) ++ "\x7d"

def literalItems : List Json → List String
  | [] => []
  | j :: r => literal j :: literalItems r

def literalMembers : List (Text × Json) → List String
  | [] => []
  | (k, j) :: r => (k.literal ++ ": " ++ literal j) :: literalMembers r

end

/-- An argument list as a literal. -/
def literalArguments : List Json → String
  | [j] => "(" ++ literal j ++ ",)"
  | items => "(" ++ ", ".intercalate (literalItems items) ++ ")"

/-- A value in the words of a message: a string as it is, anything else as a
literal. -/
def shown : Json → Text
  | .string t => t
  | j => literal j

/-- Values in place of the words of a message: nothing for none, a single one as
it is shown. -/
def words : List Json → Text
  | [] => ""
  | [j] => j.shown
  | items => literalArguments items

/-- Strings, words and an argument list of one. -/
example : literalArguments [.text "it's"] = "(\"it's\",)" ∧
    literal (.obj [("c", .null), ("d", .bool true)])
      = "\x7b'c': None, 'd': True\x7d" := by
  decide +kernel

/-- Numbers with a fraction. -/
example : literal (.decimal ⟨false, 150, -2⟩) = "1.5" ∧
    literal (.decimal ⟨true, 1, 400⟩) = "-inf"
      ∧ literal (.decimal ⟨false, 1, 22⟩) = "1e+22" := by
  decide +kernel

end SavingsClub.Json
