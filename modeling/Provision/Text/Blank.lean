/-
**Blank text.**

Identifiers, names and versions are refused when nothing is left of them after trimming, where
trimming drops the characters with the Unicode property `White_Space`:

* `isBlankChar` is that property;
* `trim` drops such characters from both ends;
* `isBlank_iff_trim_eq`: a text is blank exactly when trimming leaves nothing.
-/

namespace Provision.Text

/-- Whether a character has the Unicode property `White_Space`. -/
def isBlankChar (character : Char) : Bool :=
  let code := character.toNat
  (9 ≤ code && code ≤ 13) || code == 0x20 || code == 0x85 || code == 0xA0 || code == 0x1680 ||
    (0x2000 ≤ code && code ≤ 0x200A) || code == 0x2028 || code == 0x2029 || code == 0x202F ||
    code == 0x205F || code == 0x3000

/-- The characters without the blanks at either end. -/
def trimChars (characters : List Char) : List Char :=
  ((characters.dropWhile isBlankChar).reverse.dropWhile isBlankChar).reverse

/-- A text without the blanks at either end. -/
def trim (text : String) : String := String.ofList (trimChars text.toList)

/-- Whether a text holds blanks only. -/
def isBlank (text : String) : Bool := text.toList.all isBlankChar

private theorem dropWhile_eq_nil_iff {characters : List Char} :
    characters.dropWhile isBlankChar = [] ↔ characters.all isBlankChar = true := by
  induction characters with
  | nil => simp
  | cons first rest induction =>
    by_cases blank : isBlankChar first = true <;> simp [blank, induction]

/-- Trimming leaves nothing exactly when every character is blank. -/
theorem trimChars_eq_nil_iff {characters : List Char} :
    trimChars characters = [] ↔ characters.all isBlankChar = true := by
  unfold trimChars
  rw [List.reverse_eq_nil_iff, dropWhile_eq_nil_iff, List.all_reverse]
  constructor
  · intro rest
    have whole := List.takeWhile_append_dropWhile (p := isBlankChar) (l := characters)
    rw [← whole, List.all_append, rest, Bool.and_true]
    exact List.all_takeWhile
  · intro whole
    rw [dropWhile_eq_nil_iff.mpr whole]
    rfl

/-- A text is blank exactly when trimming leaves nothing. -/
theorem isBlank_iff_trim_eq {text : String} : isBlank text = true ↔ trim text = "" := by
  unfold isBlank trim
  rw [← trimChars_eq_nil_iff]
  constructor
  · intro empty
    rw [empty]
  · intro empty
    have characters := congrArg String.toList empty
    simpa using characters

end Provision.Text
