/-
Text as a run of code points.

JSON can write one half of a surrogate pair by itself: a code point, but no
character. A text with such a half is compared and put together like any other,
and only where its characters are asked for does it differ: `Text.toString?` has
none to give. On all other texts it undoes `Text.ofString`. Two halves next to
each other may be a pair; `Text.joined` makes one character of it, and changes
nothing else.
-/
namespace SavingsClub

/-- A run of code points. -/
structure Text where
  points : List Nat
  deriving DecidableEq, Repr

namespace Text

-- ================================================================= code points

/-- The first half of a surrogate pair. -/
def isHighSurrogate (n : Nat) : Bool := 0xD800 ≤ n && n < 0xDC00

/-- The second half of a surrogate pair. -/
def isLowSurrogate (n : Nat) : Bool := 0xDC00 ≤ n && n < 0xE000

def isSurrogate (n : Nat) : Bool := 0xD800 ≤ n && n < 0xE000

/-- The code point that a surrogate pair stands for. -/
def joinSurrogates (high low : Nat) : Nat :=
  0x10000 + (high - 0xD800) * 0x400 + (low - 0xDC00)

/-- Code points with one in place of each surrogate pair. -/
def joinPairs : List Nat → List Nat
  | high :: low :: r =>
    if isHighSurrogate high && isLowSurrogate low then
      joinSurrogates high low :: joinPairs r
    else high :: joinPairs (low :: r)
  | l => l

/-- A decimal digit; all of them are ASCII. -/
def isDigit (n : Nat) : Bool := '0'.toNat ≤ n && n ≤ '9'.toNat

/-- The number that a run of decimal digits stands for. -/
def number (digits : List Nat) : Nat :=
  digits.foldl (fun n c => n * 10 + (c - '0'.toNat)) 0

/-- No character is half of a surrogate pair. -/
theorem isSurrogate_toNat (c : Char) : isSurrogate c.toNat = false := by
  have h : c.toNat < 0xD800 ∨ 0xDFFF < c.toNat ∧ c.toNat < 0x110000 := c.valid
  simp only [isSurrogate, Bool.and_eq_false_iff, decide_eq_false_iff_not]
  omega

-- ======================================================================= texts

def ofString (s : String) : Text := ⟨s.toList.map Char.toNat⟩

instance : Coe String Text := ⟨ofString⟩

instance : Append Text := ⟨fun a b => ⟨a.points ++ b.points⟩⟩

instance : Inhabited Text := ⟨⟨[]⟩⟩

/-- The order of texts goes by code points. -/
instance : LT Text := ⟨fun a b => a.points < b.points⟩

instance (a b : Text) : Decidable (a < b) :=
  inferInstanceAs (Decidable (a.points < b.points))

/-- The decimal digits of an integer. -/
def ofInt (n : Int) : Text := ofString (toString n)

/-- Whether a text consists of characters. -/
def isWhole (t : Text) : Bool := t.points.all fun n => !isSurrogate n

/-- The characters of a text, if it consists of characters. -/
def toString? (t : Text) : Option String :=
  if t.isWhole then some (String.ofList (t.points.map Char.ofNat)) else none

/-- A text with one character in place of each surrogate pair. -/
def joined (t : Text) : Text := ⟨joinPairs t.points⟩

/-- Whether a text begins with a string. -/
def startsWith (t : Text) (s : String) : Bool :=
  (ofString s).points.isPrefixOf t.points

-- ======================================================================== laws

@[simp] theorem points_append (a b : Text) :
    (a ++ b).points = a.points ++ b.points := rfl

@[simp] theorem isWhole_ofString (s : String) :
    (ofString s).isWhole = true := by
  simp [isWhole, ofString, isSurrogate_toNat]

@[simp] theorem isWhole_ofInt (n : Int) : (ofInt n).isWhole = true :=
  isWhole_ofString _

@[simp] theorem isWhole_append (a b : Text) :
    (a ++ b).isWhole = (a.isWhole && b.isWhole) := by
  unfold isWhole
  rw [points_append, List.all_append]

@[simp] theorem toString?_ofString (s : String) :
    (ofString s).toString? = some s := by
  have h : (Char.ofNat ∘ Char.toNat) = id := funext fun c => Char.ofNat_toNat c
  rw [toString?, isWhole_ofString, if_pos rfl]
  simp only [ofString, List.map_map, h, List.map_id, String.ofList_toList]

theorem ofString_inj {s t : String} : ofString s = ofString t ↔ s = t := by
  refine ⟨fun h => ?_, fun h => h ▸ rfl⟩
  have := congrArg toString? h
  simpa using this

theorem append_right_inj {a b c : Text} : a ++ b = a ++ c ↔ b = c := by
  obtain ⟨b⟩ := b
  obtain ⟨c⟩ := c
  refine ⟨fun h => ?_, fun h => h ▸ rfl⟩
  have h := congrArg points h
  simpa using h

theorem joinPairs_eq_self {l : List Nat} (h : ∀ n ∈ l, isSurrogate n = false) :
    joinPairs l = l := by
  fun_induction joinPairs l with
  | case1 high low r hpair =>
    have hhigh := h high (.head _)
    simp [isHighSurrogate, isSurrogate] at hpair hhigh
    omega
  | case2 high low r _ ih => rw [ih fun n hn => h n (.tail _ hn)]
  | case3 => rfl

/-- A text that consists of characters holds no pair. -/
theorem joined_eq_self {t : Text} (h : t.isWhole = true) : t.joined = t := by
  simp only [isWhole, List.all_eq_true, Bool.not_eq_true'] at h
  rw [joined, joinPairs_eq_self h]

@[simp] theorem joined_ofString (s : String) :
    (ofString s).joined = ofString s :=
  joined_eq_self (isWhole_ofString s)

theorem le_joinSurrogates (high low : Nat) :
    0x10000 ≤ joinSurrogates high low :=
  Nat.le_add_right_of_le (Nat.le_add_right ..)

/-- A code point beyond the first 65536 is no half of a pair. -/
theorem not_surrogate_of_le {n : Nat} (h : 0x10000 ≤ n) :
    isHighSurrogate n = false ∧ isLowSurrogate n = false := by
  unfold isHighSurrogate isLowSurrogate
  simp only [Bool.and_eq_false_iff, decide_eq_false_iff_not]
  omega

/-- The first code point stays, or a pair becomes one that is no half of a
pair. -/
theorem joinPairs_cons (n : Nat) (l : List Nat) :
    ∃ m r, joinPairs (n :: l) = m :: r
      ∧ (m = n ∨ isLowSurrogate m = false) := by
  cases l with
  | nil => exact ⟨n, [], rfl, Or.inl rfl⟩
  | cons low r =>
    rw [joinPairs]
    split
    · exact ⟨_, _, rfl,
        Or.inr (not_surrogate_of_le (le_joinSurrogates n low)).2⟩
    · exact ⟨n, _, rfl, Or.inl rfl⟩

/-- Where all pairs have been joined, none is left. -/
theorem joinPairs_joinPairs (l : List Nat) :
    joinPairs (joinPairs l) = joinPairs l := by
  fun_induction joinPairs l with
  | case1 high low r hpair ih =>
    have hhigh := (not_surrogate_of_le (le_joinSurrogates high low)).1
    generalize joinSurrogates high low = n at hhigh ⊢
    cases hr : joinPairs r with
    | nil => rfl
    | cons m l =>
      rw [hr] at ih
      rw [joinPairs, hhigh, Bool.false_and, if_neg Bool.false_ne_true, ih]
  | case2 high low r hpair ih =>
    obtain ⟨n, m, hjoined, hn⟩ := joinPairs_cons low r
    rw [hjoined] at ih ⊢
    have hnone : ¬ (isHighSurrogate high && isLowSurrogate n) = true := by
      rcases hn with rfl | hn
      · exact hpair
      · rw [hn, Bool.and_false]
        exact Bool.false_ne_true
    rw [joinPairs, if_neg hnone, ih]
  | case3 l hl =>
    cases l with
    | nil => rfl
    | cons n l =>
      cases l with
      | nil => rfl
      | cons m r => exact absurd rfl (hl n m r)

@[simp] theorem joined_joined (t : Text) : t.joined.joined = t.joined :=
  congrArg mk (joinPairs_joinPairs t.points)

end Text

end SavingsClub
