/-
Text as octets: UTF-8, a reading of it that never fails, Latin-1, and percent
signs.

Where octets are not UTF-8, the reading breaks off at each longest run that
could have begun a character; the lenient reading puts U+FFFD in place of such a
run.
-/
import SavingsClub.Text.Basic

namespace SavingsClub.Text

def utf8 (s : String) : List UInt8 := s.toList.flatMap String.utf8EncodeChar

/-- Octets read one character each. -/
def ofLatin1 (octets : List UInt8) : Text := ⟨octets.map UInt8.toNat⟩

-- ===================================================================== reading

/-- What octets are, one after another. -/
inductive Utf8Piece where
  | character (c : Char)
  /-- Octets that begin a character and do not end it, or one that begins
  none. -/
  | broken (octets : List UInt8)
  deriving DecidableEq, Repr

/-- The six bits that an octet after the first adds. -/
def tail6 (b : UInt8) : Nat := b.toNat % 64

/-- Whether an octet may follow the first of a character. -/
def isTail (b : UInt8) : Bool := 0x80 ≤ b && b ≤ 0xBF

/-- Which octets may come second after a first octet of three or four. -/
def isSecond (first b : UInt8) : Bool :=
  if first = 0xE0 then 0xA0 ≤ b && b ≤ 0xBF
  else if first = 0xED then 0x80 ≤ b && b ≤ 0x9F
  else if first = 0xF0 then 0x90 ≤ b && b ≤ 0xBF
  else if first = 0xF4 then 0x80 ≤ b && b ≤ 0x8F
  else isTail b

/-- Octets read as UTF-8. -/
def readUtf8 : List UInt8 → List Utf8Piece
  | [] => []
  | a :: r =>
    if a < 0x80 then .character (Char.ofNat a.toNat) :: readUtf8 r
    else if 0xC2 ≤ a && a ≤ 0xDF then
      match r with
      | b :: r =>
        if isTail b then
          .character (Char.ofNat (a.toNat % 32 * 64 + tail6 b)) :: readUtf8 r
        else .broken [a] :: readUtf8 (b :: r)
      | [] => [.broken [a]]
    else if 0xE0 ≤ a && a ≤ 0xEF then
      match r with
      | b :: r =>
        if isSecond a b then
          match r with
          | c :: r =>
            if isTail c then
              .character
                (Char.ofNat ((a.toNat % 16 * 64 + tail6 b) * 64 + tail6 c))
                :: readUtf8 r
            else .broken [a, b] :: readUtf8 (c :: r)
          | [] => [.broken [a, b]]
        else .broken [a] :: readUtf8 (b :: r)
      | [] => [.broken [a]]
    else if 0xF0 ≤ a && a ≤ 0xF4 then
      match r with
      | b :: r =>
        if isSecond a b then
          match r with
          | c :: r =>
            if isTail c then
              match r with
              | d :: r =>
                if isTail d then
                  .character (Char.ofNat
                    (((a.toNat % 8 * 64 + tail6 b) * 64 + tail6 c) * 64
                      + tail6 d)) ::
                    readUtf8 r
                else .broken [a, b, c] :: readUtf8 (d :: r)
              | [] => [.broken [a, b, c]]
            else .broken [a, b] :: readUtf8 (c :: r)
          | [] => [.broken [a, b]]
        else .broken [a] :: readUtf8 (b :: r)
      | [] => [.broken [a]]
    else .broken [a] :: readUtf8 r

/-- The character that a piece is read as when none may be refused. -/
def Utf8Piece.leniently : Utf8Piece → Char
  | character c => c
  | broken _ => '\uFFFD'

/-- Octets read as UTF-8, with a replacement for what is none. -/
def decodeUtf8 (octets : List UInt8) : List Char :=
  (readUtf8 octets).map Utf8Piece.leniently

-- =============================================================== percent signs

def hexValue? (b : UInt8) : Option UInt8 :=
  if 0x30 ≤ b && b ≤ 0x39 then some (b - 0x30)
  else if 0x41 ≤ b && b ≤ 0x46 then some (b - 0x41 + 10)
  else if 0x61 ≤ b && b ≤ 0x66 then some (b - 0x61 + 10)
  else none

/-- Octets with each percent sign and two hexadecimal digits replaced by the
octet they stand for; any other percent sign stays. -/
def unescapePercent : List UInt8 → List UInt8
  | 0x25 :: h :: l :: r =>
    match hexValue? h, hexValue? l with
    | some h, some l => (h * 16 + l) :: unescapePercent r
    | _, _ => 0x25 :: unescapePercent (h :: l :: r)
  | b :: r => b :: unescapePercent r
  | [] => []

/-- A string with its percent escapes read. -/
def percentDecoded (s : String) : String :=
  String.ofList (decodeUtf8 (unescapePercent (utf8 s)))

/-- Whether an octet stands for itself in a path: a letter, a digit, or one of
four signs. -/
def isUnreserved (b : UInt8) : Bool :=
  let c := Char.ofNat b.toNat
  c.isAlphanum || c ∈ ['-', '.', '_', '~']

/-- An octet as a percent sign and two hexadecimal digits. -/
def percentEscape (b : UInt8) : List Char :=
  ['%', (Nat.digitChar (b.toNat / 16)).toUpper,
    (Nat.digitChar (b.toNat % 16)).toUpper]

/-- A string with a percent escape for each octet that does not stand for
itself. -/
def percentEncoded (s : String) : List Char :=
  (utf8 s).flatMap fun b => if isUnreserved b then [Char.ofNat b.toNat]
    else percentEscape b

example : percentDecoded "a%20b%" = "a b%" ∧ percentDecoded "%e6%84%9B" = "愛" ∧
    percentDecoded "%ff%E6%84é" = "\uFFFD\uFFFDé" := by
  decide +kernel

example : String.ofList (percentEncoded "a/愛.%") = "a%2F%E6%84%9B.%25" := by
    decide +kernel

example : ofLatin1 (utf8 "é") = "Ã©" := by decide +kernel

end SavingsClub.Text
