/-
**Strings there and back.**

A text that is spelled with its escapes is read to its closing quote and stands for itself:

* `Spelling` holds of the three ways in which a character is spelled, and of those that are used
  (`spelling_spellChar`);
* `stringBody?_spellText` finds the end of the string;
* `bodyText?_spellText` reads the text back.
-/

import Provision.Json.Reader

namespace Provision.Json

theorem hexUnit?_hexByte {code : Nat} (control : code < 0x20) :
    hexUnit? '0' '0' (Nat.digitChar (code / 16 % 16)) (Nat.digitChar (code % 16)) = some code := by
  have every : ∀ code < 0x20,
      hexUnit? '0' '0' (Nat.digitChar (code / 16 % 16)) (Nat.digitChar (code % 16)) = some code := by
    decide
  exact every code control

/-- How a character is spelled in a string: by a letter behind a backslash, by its code, or by
itself. -/
inductive Spelling : Source → Char → Prop
  | escape {letter character : Char} (named : letter ≠ 'u')
      (known : escaped? letter = some character) :
      Spelling [some '\\', some letter] character
  | unit {first second third fourth character : Char} (control : character.toNat < 0x20)
      (unit : hexUnit? first second third fourth = some character.toNat) :
      Spelling [some '\\', some 'u', some first, some second, some third, some fourth] character
  | plain {character : Char} (unquoted : character ≠ '"') (unslashed : character ≠ '\\')
      (printed : ¬character.toNat < 0x20) : Spelling [some character] character

/-- **Every character is spelled.** -/
theorem spelling_spellChar (character : Char) :
    Spelling ((spellChar character).map some) character := by
  unfold spellChar
  split
  · exact .escape (by decide) rfl
  · exact .escape (by decide) rfl
  · exact .escape (by decide) rfl
  · exact .escape (by decide) rfl
  · exact .escape (by decide) rfl
  · exact .escape (by decide) rfl
  · exact .escape (by decide) rfl
  · rename_i unquoted unslashed _ _ _ _ _
    split
    · rename_i control
      exact .unit control (hexUnit?_hexByte control)
    · rename_i printed
      exact .plain unquoted unslashed printed

/-- **A spelled character is part of the body of its string.** -/
theorem Spelling.stringBody?_append {spelled : Source} {character : Char}
    (spelling : Spelling spelled character) {rest body after : Source}
    (further : stringBody? rest = some (body, after)) :
    stringBody? (spelled ++ rest) = some (spelled ++ body, after) := by
  cases spelling with
  | @escape letter character named known =>
      show stringBody? (some '\\' :: some letter :: rest) = _
      rw [stringBody?.eq_3 _ _ fun _ _ _ _ _ _ unit => named unit, if_pos (by rw [known]; rfl),
        further]
      rfl
  | @unit first second third fourth character control unit =>
      show stringBody? (some '\\' :: some 'u' :: some first :: some second :: some third ::
        some fourth :: rest) = _
      rw [stringBody?, if_pos (by rw [unit]; rfl), further]
      rfl
  | plain unquoted unslashed printed =>
      show stringBody? (some character :: rest) = _
      rw [stringBody?.eq_5 _ _ unquoted (fun _ _ _ _ _ _ => unslashed) (fun _ _ _ => unslashed)
        unslashed, if_neg printed, further]
      rfl

/-- **A spelled character stands for itself.** -/
theorem Spelling.unescape?_append {spelled : Source} {character : Char}
    (spelling : Spelling spelled character) (rest : Source) :
    unescape? (spelled ++ rest) = (unescape? rest).map (character :: ·) := by
  cases spelling with
  | @escape letter character named known =>
      show unescape? (some '\\' :: some letter :: rest) = _
      rw [unescape?.eq_3 _ _ fun _ _ _ _ _ _ unit => named unit, known]
      cases unescape? rest <;> rfl
  | @unit first second third fourth character control unit =>
      have plain : ¬(0xD800 ≤ character.toNat ∧ character.toNat < 0xDC00) := by omega
      have named : Utf8.character? character.toNat = some character := by
        have valid : character.toNat.isValidChar := character.valid
        simp [Utf8.character?, valid]
      show unescape? (some '\\' :: some 'u' :: some first :: some second :: some third ::
        some fourth :: rest) = _
      rw [unescape?.eq_2, unit]
      simp only [Option.bind_eq_bind, Option.bind_some, if_neg plain, named]
      cases unescape? rest <;> rfl
  | plain unquoted unslashed printed =>
      show unescape? (some character :: rest) = _
      rw [unescape?.eq_5 _ _ (fun _ _ _ _ _ _ => unslashed) (fun _ _ _ => unslashed) unslashed]
      cases unescape? rest <;> rfl

/-- **A string ends at its closing quote.** -/
theorem stringBody?_spellText (text : String) (rest : Source) :
    stringBody? ((spellText text).map some ++ some '"' :: rest) =
      some ((spellText text).map some, rest) := by
  unfold spellText
  induction text.toList with
  | nil => rfl
  | cons character others hyp =>
      rw [List.flatMap_cons, List.map_append, List.append_assoc]
      exact (spelling_spellChar character).stringBody?_append hyp

/-- **A spelled text stands for itself.** -/
@[simp]
theorem bodyText?_spellText (text : String) :
    bodyText? ((spellText text).map some) = some text := by
  have characters : unescape? ((spellText text).map some) = some text.toList := by
    unfold spellText
    induction text.toList with
    | nil => rfl
    | cons character others hyp =>
        rw [List.flatMap_cons, List.map_append, (spelling_spellChar character).unescape?_append, hyp]
        rfl
  rw [bodyText?, characters, Option.map_some, String.ofList_toList]

end Provision.Json
