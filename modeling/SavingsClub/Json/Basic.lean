/-
JSON values.

An integer and a number with a fraction or an exponent are kept apart, because
the service answers them differently. An object keeps its members in order, each
name once.
-/
import SavingsClub.Decimal
import SavingsClub.Text.Basic

namespace SavingsClub

/-- The three numbers that have a name in place of digits. -/
inductive NonFinite where
  | nan
  | infinity
  | negativeInfinity
  deriving DecidableEq, Repr

/-- A JSON value. -/
inductive Json where
  | null
  | bool (b : Bool)
  | integer (n : Int)
  /-- A number written with a fraction or an exponent. -/
  | decimal (d : Decimal)
  | nonFinite (n : NonFinite)
  | string (t : Text)
  | array (items : List Json)
  | object (members : List (Text × Json))
  deriving Repr

namespace Json

-- ======================================================== building and reading

def text (s : String) : Json := .string s

/-- An object from its members, in order. -/
def obj (members : List (String × Json)) : Json :=
  .object (members.map fun m => (.ofString m.1, m.2))

def ofTexts (l : List Text) : Json := .array (l.map string)

def ofStrings (l : List String) : Json := .array (l.map text)

def text? : Json → Option Text
  | .string t => some t
  | _ => none

/-- The strings of an array; what is not a string is passed over. -/
def texts : Json → List Text
  | .array items => items.filterMap text?
  | _ => []

def field? (name : String) : Json → Option Json
  | .object members => members.lookup (.ofString name)
  | _ => none

@[simp] theorem texts_ofTexts (l : List Text) : (ofTexts l).texts = l := by
  simp only [ofTexts, texts, List.filterMap_map]
  induction l with
  | nil => rfl
  | cons s r ih => simpa [text?] using ih

-- ===================================================================== reading

mutual

/-- What is read where a value was written. A text shows only the code points of
a string, so halves of a surrogate pair that stand together are read as the
character that they are a pair for. -/
def reread : Json → Json
  | .string t => .string t.joined
  | .array items => .array (rereadItems items)
  | .object members => .object (rereadMembers members)
  | j => j

def rereadItems : List Json → List Json
  | [] => []
  | j :: r => reread j :: rereadItems r

def rereadMembers : List (Text × Json) → List (Text × Json)
  | [] => []
  | (k, j) :: r => (k.joined, reread j) :: rereadMembers r

end

@[simp] theorem reread_ofTexts (l : List Text) :
    (ofTexts l).reread = ofTexts (l.map Text.joined) := by
  simp only [ofTexts, reread]
  induction l with
  | nil => rfl
  | cons t r ih => simpa [rereadItems, reread] using ih

-- ===================================================================== nesting

mutual

/-- How many levels of arrays and objects a value has. -/
def depth : Json → Nat
  | .array items => depthItems items + 1
  | .object members => depthMembers members + 1
  | _ => 0

def depthItems : List Json → Nat
  | [] => 0
  | j :: r => max (depth j) (depthItems r)

def depthMembers : List (Text × Json) → Nat
  | [] => 0
  | (_, j) :: r => max (depth j) (depthMembers r)

end

-- ==================================================================== equality

mutual

/-- Whether two values are the same. -/
def same : Json → Json → Bool
  | .null, .null => true
  | .bool a, .bool b => a == b
  | .integer a, .integer b => a == b
  | .decimal a, .decimal b => decide (a = b)
  | .nonFinite a, .nonFinite b => decide (a = b)
  | .string a, .string b => decide (a = b)
  | .array a, .array b => sameItems a b
  | .object a, .object b => sameMembers a b
  | _, _ => false

def sameItems : List Json → List Json → Bool
  | [], [] => true
  | x :: xs, y :: ys => same x y && sameItems xs ys
  | _, _ => false

def sameMembers : List (Text × Json) → List (Text × Json) → Bool
  | [], [] => true
  | (k, x) :: xs, (l, y) :: ys =>
    decide (k = l) && same x y && sameMembers xs ys
  | _, _ => false

end

mutual

/-- `same` decides equality. -/
theorem same_iff : ∀ a b : Json, same a b = true ↔ a = b
  | .null, b => by cases b <;> simp [same]
  | .bool _, b => by cases b <;> simp [same]
  | .integer _, b => by cases b <;> simp [same]
  | .decimal _, b => by cases b <;> simp [same]
  | .nonFinite _, b => by cases b <;> simp [same]
  | .string _, b => by cases b <;> simp [same]
  | .array xs, b => by cases b <;> simp [same, sameItems_iff xs]
  | .object xs, b => by cases b <;> simp [same, sameMembers_iff xs]

theorem sameItems_iff : ∀ a b : List Json, sameItems a b = true ↔ a = b
  | [], b => by cases b <;> simp [sameItems]
  | x :: xs, b => by cases b <;> simp [sameItems, same_iff x, sameItems_iff xs]

theorem sameMembers_iff :
    ∀ a b : List (Text × Json), sameMembers a b = true ↔ a = b
  | [], b => by cases b <;> simp [sameMembers]
  | (k, x) :: xs, b => by
    cases b with
    | nil => simp [sameMembers]
    | cons y ys =>
      obtain ⟨l, y⟩ := y
      simp [sameMembers, same_iff x, sameMembers_iff xs]

end

instance : DecidableEq Json :=
  fun a b => decidable_of_iff (same a b = true) (same_iff a b)

end Json

end SavingsClub
