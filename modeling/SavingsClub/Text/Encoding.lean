/-
Which encoding octets are in, if they are JSON, and the reading of the wide
ones.

JSON begins with two ASCII characters, unless it is a single one, so the zeros
among its first octets tell the width of its units and their order. Text in
UTF-16 may hold half of a surrogate pair by itself, and so may text in UTF-32.
-/
import SavingsClub.Text.Basic

namespace SavingsClub.Text

/-- Which octet of a unit comes first. -/
inductive ByteOrder where
  | big
  | little
  deriving DecidableEq, Repr

/-- The encodings in which JSON is read. -/
inductive Encoding where
  | utf8
  | utf16 (order : ByteOrder)
  | utf32 (order : ByteOrder)
  deriving DecidableEq, Repr

namespace Encoding

/-- The encoding that octets are in if they are JSON. -/
def ofJson : List UInt8 → Encoding
  | a :: b :: c :: d :: _ =>
    if a = 0 then if b = 0 then utf32 .big else utf16 .big
    else if b = 0 then if c = 0 ∧ d = 0 then utf32 .little else utf16 .little
    else utf8
  | [a, b] =>
    if a = 0 then utf16 .big else if b = 0 then utf16 .little else utf8
  | _ => utf8

end Encoding

namespace ByteOrder

/-- The number that octets stand for. -/
def number (octets : List UInt8) : ByteOrder → Nat
  | .big => octets.foldl (fun n b => n * 256 + b.toNat) 0
  | .little => octets.foldr (fun b n => n * 256 + b.toNat) 0

end ByteOrder

/-- Units of two octets each; none if one octet is left over. -/
def units16? (o : ByteOrder) : List UInt8 → Option (List Nat)
  | [] => some []
  | [_] => none
  | a :: b :: r => (units16? o r).map (o.number [a, b] :: ·)

/-- Units of four octets each; none if octets are left over. -/
def units32? (o : ByteOrder) : List UInt8 → Option (List Nat)
  | [] => some []
  | a :: b :: c :: d :: r => (units32? o r).map (o.number [a, b, c, d] :: ·)
  | _ => none

/-- Octets read as UTF-16; there must be no odd one. -/
def ofUtf16? (o : ByteOrder) (octets : List UInt8) : Option Text :=
  (units16? o octets).map fun units => ⟨joinPairs units⟩

/-- Octets read as UTF-32; every unit must be a code point. -/
def ofUtf32? (o : ByteOrder) (octets : List UInt8) : Option Text := do
  let units ← units32? o octets
  if units.all (· < 0x110000) then return ⟨units⟩ else none

/-- Braces in each wide encoding. -/
example : Encoding.ofJson [0x7B, 0, 0x7D, 0] = .utf16 .little ∧
    ofUtf16? .little [0x7B, 0, 0x7D, 0] = some "\x7b\x7d" ∧
    Encoding.ofJson [0, 0, 0, 0x7B, 0, 0, 0, 0x7D] = .utf32 .big ∧
    ofUtf32? .big [0, 0, 0, 0x7B, 0, 0, 0, 0x7D] = some "\x7b\x7d" := by
  decide +kernel

/-- A pair is one code point, half of a pair stays, and an odd octet is
refused. -/
example : ofUtf16? .big [0xD8, 0x3D, 0xDE, 0x00] = some "😀" ∧
    ofUtf16? .big [0xD8, 0x3D] = some ⟨[0xD83D]⟩
      ∧ ofUtf16? .big [0, 0x7B, 0] = none := by
  decide +kernel

end SavingsClub.Text
