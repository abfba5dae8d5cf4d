/-
Reading JSON text.

The grammar is RFC 8259 with three additions: the numbers `NaN`, `Infinity` and
`-Infinity`, names that occur twice in an object (the last value counts, in the
place of the first), and halves of surrogate pairs, which a string may hold and
an escape may write. Two escapes that write the two halves of a pair one after
the other stand for the character.

Reading stops at the first fault. A reader has bounds: an integer of too many
digits and nesting too deep are faults of their own, since such text is well
formed. A fault close to the greatest depth cannot be told from nesting too
deep, unless it is only that a value is missing.

Each level of nesting takes two calls and each further member one, and both take
at least one code point, so twice the length of the text bounds the recursion.
-/
import SavingsClub.Json.Basic

namespace SavingsClub.Json

open Text (isDigit number)

/-- Why text could not be read. -/
inductive ReadFault where
  /-- The text is not JSON. -/
  | malformed
  /-- An integer has more digits than the reader takes. -/
  | oversized
  /-- Arrays and objects stand in each other more deeply than the reader
  takes. -/
  | tooDeep
  deriving DecidableEq, Repr

/-- What a reader takes. -/
structure Bounds where
  digits : Nat
  depth : Nat
  /-- The most levels of arrays and objects around a fault that can be told. -/
  faultDepth : Nat
  deriving DecidableEq, Repr

namespace Reader

/-- The fault found `level` levels down in text that is not JSON. -/
def faultAt (b : Bounds) (level : Nat) : ReadFault :=
  if b.faultDepth < level then .tooDeep else .malformed

-- ================================================================= code points

@[match_pattern] abbrev quote : Nat := 0x22
@[match_pattern] abbrev backslash : Nat := 0x5C
@[match_pattern] abbrev letterU : Nat := 0x75
@[match_pattern] abbrev openBracket : Nat := 0x5B
@[match_pattern] abbrev closeBracket : Nat := 0x5D
@[match_pattern] abbrev openBrace : Nat := 0x7B
@[match_pattern] abbrev closeBrace : Nat := 0x7D
@[match_pattern] abbrev colon : Nat := 0x3A
@[match_pattern] abbrev comma : Nat := 0x2C
@[match_pattern] abbrev minus : Nat := 0x2D
@[match_pattern] abbrev plus : Nat := 0x2B
@[match_pattern] abbrev point : Nat := 0x2E
@[match_pattern] abbrev zero : Nat := 0x30

/-- JSON's white space: four ASCII characters. -/
def isBlank (n : Nat) : Bool := n == 0x20 || n == 0x09 || n == 0x0A || n == 0x0D

/-- The text after the blanks at its start. -/
def skipBlanks (cs : List Nat) : List Nat := cs.dropWhile isBlank

def hexDigit? (n : Nat) : Option Nat :=
  if isDigit n then some (n - zero)
  else if 0x61 ≤ n ∧ n ≤ 0x66 then some (n - 0x61 + 10)
  else if 0x41 ≤ n ∧ n ≤ 0x46 then some (n - 0x41 + 10)
  else none

/-- The number that four hexadecimal digits stand for. -/
def hex4? (a b c d : Nat) : Option Nat := do
  let a ← hexDigit? a
  let b ← hexDigit? b
  let c ← hexDigit? c
  let d ← hexDigit? d
  return ((a * 16 + b) * 16 + c) * 16 + d

/-- The one-letter escapes, each with what it stands for. -/
def letterEscapes : List (Nat × Nat) :=
  [(quote, quote), (backslash, backslash), (0x2F, 0x2F), (0x62, 0x08),
    (0x66, 0x0C), (0x6E, 0x0A), (0x72, 0x0D), (0x74, 0x09)]

-- ===================================================================== strings

/-- A code point inside a string. -/
inductive Piece where
  /-- One that stands there itself, or for which a letter stands. -/
  | plain (n : Nat)
  /-- One that is written by its number. -/
  | numbered (n : Nat)
  deriving DecidableEq, Repr

/-- The pieces of a string up to its closing quote, and the text after it. A
control character must be escaped. -/
def pieces? : List Nat → Option (List Piece × List Nat)
  | [] => none
  | quote :: r => some ([], r)
  | backslash :: letterU :: a :: b :: c :: d :: r => do
    let n ← hex4? a b c d
    let (pieces, rest) ← pieces? r
    return (.numbered n :: pieces, rest)
  | backslash :: e :: r => do
    let n ← letterEscapes.lookup e
    let (pieces, rest) ← pieces? r
    return (.plain n :: pieces, rest)
  | n :: r =>
    if n < 0x20 then none
    else do
      let (pieces, rest) ← pieces? r
      return (.plain n :: pieces, rest)

/-- The code points of pieces: two numbers that make a surrogate pair are one
code point. -/
def joined : List Piece → List Nat
  | .numbered high :: .numbered low :: r =>
    if Text.isHighSurrogate high && Text.isLowSurrogate low then
      Text.joinSurrogates high low :: joined r
    else high :: joined (.numbered low :: r)
  | .numbered n :: r | .plain n :: r => n :: joined r
  | [] => []

/-- A string, after its opening quote, `level` levels down. -/
def stringTail (b : Bounds) (level : Nat) (cs : List Nat) :
    Except ReadFault (Text × List Nat) :=
  match pieces? cs with
  | some (pieces, rest) => .ok (⟨joined pieces⟩, rest)
  | none => .error (faultAt b level)

-- ===================================================================== numbers

/-- The digits of a fraction, with the text after them: a point that no digit
follows is not part of the number. -/
def fraction : List Nat → List Nat × List Nat
  | point :: n :: r =>
    if isDigit n then ((n :: r).takeWhile isDigit, (n :: r).dropWhile isDigit)
    else ([], point :: n :: r)
  | cs => ([], cs)

/-- An exponent, if one is written, with the text after it. -/
def exponent : List Nat → Option Int × List Nat
  | e :: r =>
    let (sign, digits) : Int × List Nat := match r with
      | plus :: ds => (1, ds)
      | minus :: ds => (-1, ds)
      | ds => (1, ds)
    let run := digits.takeWhile isDigit
    if (e == 0x65 || e == 0x45) && !run.isEmpty then
      (some (sign * number run), digits.dropWhile isDigit)
    else (none, e :: r)
  | [] => (none, [])

/-- A number without its sign. An integer begins with 0 only if it is 0. -/
def magnitude (b : Bounds) (negative : Bool) (cs : List Nat) :
    Except ReadFault (Json × List Nat) :=
  let (digits, r) := match cs with
    | zero :: r => ([zero], r)
    | cs => (cs.takeWhile isDigit, cs.dropWhile isDigit)
  if digits.isEmpty then .error .malformed
  else
    let (places, r) := fraction r
    let (power, r) := exponent r
    if places.isEmpty && power.isNone then
      if b.digits < digits.length then .error .oversized
      else
        let n : Int := number digits
        .ok (.integer (if negative then -n else n), r)
    else
      let d : Decimal :=
        ⟨negative, number (digits ++ places),
          power.getD 0 - (places.length : Int)⟩
      .ok (.decimal d, r)

def numeral (b : Bounds) : List Nat → Except ReadFault (Json × List Nat)
  | minus :: r => magnitude b true r
  | cs => magnitude b false cs

-- ====================================================================== values

/-- The values that are written as words. -/
def words : List (Text × Json) :=
  [("null", .null), ("true", .bool true), ("false", .bool false),
    ("NaN", .nonFinite .nan), ("Infinity", .nonFinite .infinity),
    ("-Infinity", .nonFinite .negativeInfinity)]

/-- The rest of the text after a word. -/
def after? : List Nat → List Nat → Option (List Nat)
  | [], cs => some cs
  | w :: ws, c :: cs => if w = c then after? ws cs else none
  | _ :: _, [] => none

/-- A value that is written as a word, if the text begins with one. -/
def word? (cs : List Nat) : Option (Json × List Nat) :=
  words.findSome? fun w => (after? w.1.points cs).map fun rest => (w.2, rest)

/-- Adds a member; a name that is there already keeps its place and takes the
new value. -/
def putMember (name : Text) (value : Json) :
    List (Text × Json) → List (Text × Json)
  | [] => [(name, value)]
  | (k, v) :: r =>
    if k = name then (k, value) :: r else (k, v) :: putMember name value r

mutual

/-- The value at the start of the text, `level` levels down. -/
def value (b : Bounds) :
    Nat → Nat → List Nat → Except ReadFault (Json × List Nat)
  | 0, _, _ => .error .malformed
  | fuel + 1, level, cs =>
    match cs with
    | quote :: r => do
      let (t, rest) ← stringTail b level r
      return (.string t, rest)
    | openBracket :: r =>
      if b.depth ≤ level then .error .tooDeep
      else
        match skipBlanks r with
        | closeBracket :: rest => .ok (.array [], rest)
        | r => items b fuel (level + 1) [] r
    | openBrace :: r =>
      if b.depth ≤ level then .error .tooDeep
      else
        match skipBlanks r with
        | closeBrace :: rest => .ok (.object [], rest)
        | r => members b fuel (level + 1) [] r
    | cs =>
      match word? cs with
      | some found => .ok found
      | none => numeral b cs

/-- The items of an array from one of them on; `done` holds those before it,
last first. -/
def items (b : Bounds) :
    Nat → Nat → List Json → List Nat → Except ReadFault (Json × List Nat)
  | 0, _, _, _ => .error .malformed
  | fuel + 1, level, done, cs => do
    let (j, r) ← value b fuel level cs
    match skipBlanks r with
    | closeBracket :: rest => return (.array (j :: done).reverse, rest)
    | comma :: r => items b fuel level (j :: done) (skipBlanks r)
    | _ => .error (faultAt b level)

/-- The members of an object from one of them on; `done` holds those before
it. -/
def members (b : Bounds) :
    Nat → Nat → List (Text × Json) → List Nat →
      Except ReadFault (Json × List Nat)
  | 0, _, _, _ => .error .malformed
  | fuel + 1, level, done, cs =>
    match cs with
    | quote :: r => do
      let (name, r) ← stringTail b level r
      match skipBlanks r with
      | colon :: r =>
        let (j, r) ← value b fuel level (skipBlanks r)
        match skipBlanks r with
        | closeBrace :: rest => return (.object (putMember name j done), rest)
        | comma :: r =>
          members b fuel level (putMember name j done) (skipBlanks r)
        | _ => .error (faultAt b level)
      | _ => .error (faultAt b level)
    | _ => .error (faultAt b level)

end

end Reader

/-- The value that a text holds, with blanks around it and nothing else. -/
def parse (b : Bounds) (t : Text) : Except ReadFault Json := do
  let cs := Reader.skipBlanks t.points
  let (j, rest) ← Reader.value b (2 * cs.length + 1) 0 cs
  if (Reader.skipBlanks rest).isEmpty then return j else .error .malformed

/-- Bounds that nothing in a text of this length can exceed. -/
def Bounds.ofLength (n : Nat) : Bounds := ⟨n, n, n⟩

end SavingsClub.Json
