/-
**Capital letters.**

Words of a closed vocabulary are recognised in any case. Since the vocabulary is ASCII, a letter
matters only where its upper-case form is made of ASCII capitals:

* `capitals` gives the upper-case form of a character, as far as it is ASCII;
* `upper` capitalises a whole text.
-/

namespace Provision.Text

/-- The upper-case form of a character where that form is ASCII, else the character itself.

Beside the letters `a` to `z` these are the dotless i, the long s, the sharp s and the Latin
ligatures. -/
def capitals (character : Char) : List Char :=
  match character with
  | 'ı' => ['I']
  | 'ſ' => ['S']
  | 'ß' => ['S', 'S']
  | 'ﬀ' => ['F', 'F']
  | 'ﬁ' => ['F', 'I']
  | 'ﬂ' => ['F', 'L']
  | 'ﬃ' => ['F', 'F', 'I']
  | 'ﬄ' => ['F', 'F', 'L']
  | 'ﬅ' => ['S', 'T']
  | 'ﬆ' => ['S', 'T']
  | other => [other.toUpper]

/-- A text in capitals. -/
def upper (text : String) : String := String.ofList (text.toList.flatMap capitals)

end Provision.Text
