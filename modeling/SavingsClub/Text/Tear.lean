/-
Where a text is torn.

A text that is to be written in octets must consist of characters. If it does
not, the first run of halves of surrogate pairs in it is what is reported;
`Text.tear?_eq_none_iff` says that the texts without such a run are those that
consist of characters.
-/
import SavingsClub.Text.Literal

namespace SavingsClub.Text

/-- A run of halves of surrogate pairs in a text. -/
structure Tear where
  /-- How many code points come before the run. -/
  position : Nat
  halves : List Nat
  deriving DecidableEq, Repr

/-- The first half in a text that is refused, and the halves right after it. -/
def tearAt? (t : Text) (refused : Nat → Bool) : Option Tear :=
  (t.points.findIdx? refused).map fun position =>
    ⟨position, (t.points.drop position).takeWhile isSurrogate⟩

/-- The first run of halves in a text. -/
def tear? (t : Text) : Option Tear := t.tearAt? isSurrogate

/-- What is said of a text that cannot be written in octets. -/
def Tear.message (tear : Tear) : Text :=
  let first := Text.ofInt tear.position
  let place : Text := match tear.halves with
    | [half] =>
      " character " ++ ofString (literal ⟨[half]⟩) ++ " in position " ++ first
    | halves =>
      " characters in position " ++ first ++ "-" ++
        Text.ofInt (tear.position + halves.length - 1)
  "'utf-8' codec can't encode" ++ place ++ ": surrogates not allowed"

/-- A text without a tear consists of characters. -/
theorem tear?_eq_none_iff (t : Text) : t.tear? = none ↔ t.isWhole = true := by
  simp [tear?, tearAt?, isWhole, List.findIdx?_eq_none_iff]

example : (⟨[0x61, 0xD800]⟩ : Text).tear?.map Tear.message
    = some ("'utf-8' codec can't encode character '\\ud800' in position 1"
      ++ ": surrogates not allowed") := by
  decide +kernel

example : (⟨[0xDC00, 0xD800, 0x61, 0xD800]⟩ : Text).tear?.map Tear.message
    = some ("'utf-8' codec can't encode characters in position 0-1"
      ++ ": surrogates not allowed") := by
  decide +kernel

end SavingsClub.Text
