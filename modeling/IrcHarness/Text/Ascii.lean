/-!
# ASCII Letter Case

Commands, mechanism names and the word `PING` compare without regard to the
case of ASCII letters. Other letters compare as they are: `É` and `é` are
different in a command.

## Main definitions

* `Ascii.lower`: A text with its ASCII letters in lower case.
* `Ascii.eqIgnoreCase`: Equality up to the case of ASCII letters.
* `Ascii.isDigit`: The ten ASCII digits.
-/

namespace IrcHarness

namespace Ascii

/-- The characters of a text with the ASCII letters in lower case. -/
def lower (s : String) : List Char :=
  s.toList.map Char.toLower

/-- Whether two texts are equal up to the case of ASCII letters. -/
def eqIgnoreCase (a b : String) : Bool :=
  lower a == lower b

/-- Whether a character is one of the ten ASCII digits. -/
def isDigit (c : Char) : Bool :=
  '0' ≤ c && c ≤ '9'

theorem eqIgnoreCase_iff (a b : String) : eqIgnoreCase a b = true ↔ lower a = lower b := by
  simp [eqIgnoreCase]

theorem eqIgnoreCase_refl (a : String) : eqIgnoreCase a a = true := by
  simp [eqIgnoreCase]

end Ascii

end IrcHarness
