/-
Text that can hold any octets.

Octets that are UTF-8 are held by their characters. Each octet of the others is
held by an escape, which is half of a surrogate pair and so no character.
Written in octets, a text of characters and escapes is what it holds. It need
not read back as the same text: escapes next to each other may hold the octets
of a character.
-/
import SavingsClub.Text.Tear
import SavingsClub.Text.Utf8

namespace SavingsClub.Text

/-- Whether a half of a surrogate pair is an escape: it holds the octet in its
low bits, one beyond ASCII. -/
def isEscape (n : Nat) : Bool := 0xDC80 ≤ n && n < 0xDD00

/-- The octets of a character or of an escape. -/
def pointOctets (n : Nat) : List UInt8 :=
  if isEscape n then [UInt8.ofNat n] else String.utf8EncodeChar (Char.ofNat n)

/-- The octets of a text of characters and escapes; any other half tears it. -/
def toOctets (t : Text) : Except Tear (List UInt8) :=
  match t.tearAt? fun n => isSurrogate n && !isEscape n with
  | some tear => .error tear
  | none => .ok (t.points.flatMap pointOctets)

def Utf8Piece.points : Utf8Piece → List Nat
  | character c => [c.toNat]
  | broken octets => octets.map fun b => 0xDC00 + b.toNat

/-- The text that holds octets. -/
def ofOctets (octets : List UInt8) : Text :=
  ⟨(readUtf8 octets).flatMap Utf8Piece.points⟩

/-- An octet that is no character, and two that are one. -/
example : ofOctets [0x61, 0xFF] = ⟨[0x61, 0xDCFF]⟩ ∧
    (toOctets ⟨[0xDCC3, 0xDCA9]⟩).toOption.map ofOctets = some "é" := by
  decide +kernel

/-- The escapes before a half that is none do not count as torn. -/
example : toOctets ⟨[0x61, 0xDC80, 0xDC81, 0xD800]⟩ = .error ⟨3, [0xD800]⟩ :=
  rfl

end SavingsClub.Text
