/-
Writing JSON text.

The text is the compact form: no blanks, members in order, every character as
itself except the quote, the backslash and the control characters. Half of a
surrogate pair is written by its number.
-/
import SavingsClub.Json.Basic

namespace SavingsClub.Json

namespace Writer

def hexDigit (n : Nat) : Char :=
  if n < 10 then Char.ofNat (48 + n) else Char.ofNat (87 + n)

/-- A code point written by its number. -/
def numbered (n : Nat) : List Char :=
  '\\' :: 'u' :: [n / 4096, n / 256 % 16, n / 16 % 16, n % 16].map hexDigit

/-- A code point inside a string. -/
def codePoint (n : Nat) : List Char :=
  if n = '"'.toNat then ['\\', '"']
  else if n = '\\'.toNat then ['\\', '\\']
  else if n < 0x20 ∨ Text.isSurrogate n then numbered n
  else [Char.ofNat n]

def quoted (t : Text) : String :=
  "\"" ++ String.ofList (t.points.flatMap codePoint) ++ "\""

def nonFinite : NonFinite → String
  | .nan => "NaN"
  | .infinity => "Infinity"
  | .negativeInfinity => "-Infinity"

/-- A decimal as its significand and its power of ten. -/
def decimal (d : Decimal) : String :=
  (if d.negative then "-" else "") ++ toString d.significand ++ "e"
    ++ toString d.exponent

end Writer

mutual

/-- The text of a value. -/
def render : Json → String
  | .null => "null"
  | .bool b => if b then "true" else "false"
  | .integer n => toString n
  | .decimal d => Writer.decimal d
  | .nonFinite n => Writer.nonFinite n
  | .string t => Writer.quoted t
  | .array items => "[" ++ ",".intercalate (renderItems items) ++ "]"
  | .object members =>
    "\x7b" ++ ",".intercalate (renderMembers members) ++ "\x7d"

def renderItems : List Json → List String
  | [] => []
  | j :: r => render j :: renderItems r

def renderMembers : List (Text × Json) → List String
  | [] => []
  | (k, j) :: r => (Writer.quoted k ++ ":" ++ render j) :: renderMembers r

end

end SavingsClub.Json
