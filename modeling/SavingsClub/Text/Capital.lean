/-
Capital letters, as far as ASCII words need them.

Besides the small letters of ASCII there are a few characters whose capital form
consists of ASCII letters. All others are left as they are: a word in which one
of them stands has no ASCII capital form.
-/
namespace SavingsClub.Text

/-- The characters beyond ASCII whose capital form consists of ASCII letters. -/
def asciiCapitals : List (Char × String) :=
  [('ß', "SS"), ('ı', "I"), ('ſ', "S"), ('ﬀ', "FF"), ('ﬁ', "FI"), ('ﬂ', "FL"),
    ('ﬃ', "FFI"), ('ﬄ', "FFL"), ('ﬅ', "ST"), ('ﬆ', "ST")]

/-- The capital form of a character, if it consists of ASCII letters; else the
character. -/
def capital (c : Char) : List Char :=
  match asciiCapitals.lookup c with
  | some s => s.toList
  | none => [c.toUpper]

/-- A word in capital letters. -/
def capitals (s : String) : String := String.ofList (s.toList.flatMap capital)

/-- A word in small letters, one with a long s, and one that has no ASCII
capital form. -/
example : (capitals "get", capitals "PoſT", capitals "GÉT")
    = ("GET", "POST", "GÉT") := by
  decide +kernel

end SavingsClub.Text
