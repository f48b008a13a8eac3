/-
**JSON text there and back.**

A value that is laid out over several lines is read as what it is spelled by:

* `Reads` says of a number of steps that it suffices for every text that is no longer, for values and
  for what stands between brackets and braces;
* `reads` goes by induction on the number of steps, since items and members are values again;
* `read?_pretty` is the round trip of a document, `ofBytes?_encode` that of the contents of a file.
-/

import Provision.Proofs.Json.Numbers
import Provision.Proofs.Json.Strings
import Provision.Proofs.Text.Utf8

namespace Provision.Json

/-! ### Blanks -/

theorem skipSpace_cons {character : Char} (visible : isSpace (some character) = false)
    (rest : Source) : skipSpace (some character :: rest) = some character :: rest := by
  rw [skipSpace, List.dropWhile_cons_of_neg (by simp [visible])]

@[simp]
theorem skipSpace_newLine (level : Nat) (source : Source) :
    skipSpace ((newLine level).map some ++ source) = skipSpace source := by
  have blank : ∀ character ∈ (newLine level).map some, isSpace character = true := by
    intro character member
    obtain ⟨plain, inside, rfl⟩ := List.mem_map.mp member
    rcases List.mem_cons.mp inside with rfl | repeated
    · rfl
    · rw [List.eq_of_mem_replicate repeated]
      rfl
  rw [skipSpace, List.dropWhile_append_of_pos blank]
  rfl

theorem readValue?_newLine (fuel level : Nat) (source : Source) :
    readValue? fuel ((newLine level).map some ++ source) = readValue? fuel source := by
  cases fuel with
  | zero => rw [readValue?, readValue?]
  | succ fuel => rw [readValue?, readValue?, skipSpace_newLine]

theorem readValue?_blank (fuel : Nat) (source : Source) :
    readValue? fuel (some ' ' :: source) = readValue? fuel source := by
  cases fuel with
  | zero => rw [readValue?, readValue?]
  | succ fuel =>
      rw [readValue?, readValue?]
      rfl

theorem readItems?_newLine (fuel level : Nat) (source : Source) :
    readItems? fuel ((newLine level).map some ++ source) = readItems? fuel source := by
  cases fuel with
  | zero => rw [readItems?, readItems?]
  | succ fuel => rw [readItems?, readItems?, readValue?_newLine]

theorem readMembers?_newLine (fuel level : Nat) (source : Source) :
    readMembers? fuel ((newLine level).map some ++ source) = readMembers? fuel source := by
  cases fuel with
  | zero => rw [readMembers?, readMembers?]
  | succ fuel => rw [readMembers?, readMembers?, skipSpace_newLine]

/-! ### How texts start -/

/-- A character with which a value starts. -/
def isStart (character : Char) : Bool :=
  !isSpace (some character) && character != ']' && character != '}'

theorem isStart_of_isDigit {character : Char} (digit : character.isDigit = true) :
    isStart character = true := by
  have different (other : Char) (letter : other.isDigit = false) : character ≠ other := by
    rintro rfl
    rw [digit] at letter
    cases letter
  simp [isStart, isSpace, different]

theorem exists_print_cons (value : Number) : ∃ first others,
    value.numeral.print = first :: others ∧ (first = '-' ∨ first.isDigit = true) := by
  cases value with
  | integer whole =>
      obtain ⟨first, others, digits, digit⟩ := exists_toDigits_cons whole.natAbs
      by_cases negative : whole < 0
      · exact ⟨'-', Nat.toDigits 10 whole.natAbs,
          by simp [Number.numeral, Numeral.print, negative], .inl rfl⟩
      · exact ⟨first, others, by simp [Number.numeral, Numeral.print, negative, digits], .inr digit⟩
  | decimal negative digits exponent =>
      obtain ⟨first, others, spelled, digit⟩ := exists_toDigits_cons digits
      cases negative with
      | true => exact ⟨'-', _, rfl, .inl rfl⟩
      | false => exact ⟨first, _, by simp [Number.numeral, Numeral.print, spelled]; rfl, .inr digit⟩

/-- A value starts with a character that is no blank and closes nothing. -/
theorem exists_prettyAt_cons (level : Nat) (value : Json) :
    ∃ first others, prettyAt level value = first :: others ∧ isStart first = true := by
  cases value with
  | null => exact ⟨'n', _, by rw [prettyAt], rfl⟩
  | bool value => cases value <;> exact ⟨_, _, by rw [prettyAt], rfl⟩
  | number value =>
      obtain ⟨first, others, printed, start⟩ := exists_print_cons value
      refine ⟨first, others, by rw [prettyAt, printed], ?_⟩
      rcases start with rfl | digit
      · rfl
      · exact isStart_of_isDigit digit
  | string text => exact ⟨'"', _, by rw [prettyAt, quoted]; rfl, rfl⟩
  | array items =>
      cases items with
      | nil => exact ⟨'[', _, by rw [prettyAt], rfl⟩
      | cons item rest => exact ⟨'[', _, by rw [prettyAt]; rfl, rfl⟩
  | object members =>
      cases members with
      | nil => exact ⟨'{', _, by rw [prettyAt], rfl⟩
      | cons member rest => exact ⟨'{', _, by rw [prettyAt]; rfl, rfl⟩

/-! ### Steps -/

/-- A number of steps that suffices for every text that is no longer. -/
structure Reads (fuel : Nat) : Prop where
  value : ∀ (level : Nat) (value : Json) (rest : Source), Ends rest →
    (prettyAt level value).length ≤ fuel →
    readValue? fuel ((prettyAt level value).map some ++ rest) = some (tree value, rest)
  items : ∀ (level outer : Nat) (item : Json) (others : List Json) (rest : Source),
    (prettyAt level item).length + (prettyItems level others).length + 1 ≤ fuel →
    readItems? fuel ((prettyAt level item).map some ++ ((prettyItems level others).map some ++
        ((newLine outer).map some ++ some ']' :: rest))) =
      some (tree item :: trees others, rest)
  members : ∀ (level outer : Nat) (key : String) (item : Json) (others : List (String × Json))
    (rest : Source),
    (prettyAt level item).length + (prettyMembers level others).length + 1 ≤ fuel →
    readMembers? fuel ((quoted key).map some ++ some ':' :: some ' ' ::
        ((prettyAt level item).map some ++ ((prettyMembers level others).map some ++
          ((newLine outer).map some ++ some '}' :: rest)))) =
      some (((spellText key).map some, tree item) :: memberTrees others, rest)

theorem ends_newLine (level : Nat) (rest : Source) : Ends ((newLine level).map some ++ rest) :=
  ends_cons rfl (by decide) (by decide) (by decide) _

theorem ends_items (level outer : Nat) (others : List Json) (rest : Source) :
    Ends ((prettyItems level others).map some ++ ((newLine outer).map some ++ rest)) := by
  cases others with
  | nil => exact ends_newLine outer rest
  | cons item more => exact ends_cons rfl (by decide) (by decide) (by decide) _

theorem ends_members (level outer : Nat) (others : List (String × Json)) (rest : Source) :
    Ends ((prettyMembers level others).map some ++ ((newLine outer).map some ++ rest)) := by
  cases others with
  | nil => exact ends_newLine outer rest
  | cons member more => exact ends_cons rfl (by decide) (by decide) (by decide) _

theorem length_prettyAt_pos (level : Nat) (value : Json) : 0 < (prettyAt level value).length := by
  obtain ⟨first, others, spelled, -⟩ := exists_prettyAt_cons level value
  rw [spelled]
  exact Nat.succ_pos _

/-- A value is preceded by no blank. -/
theorem skipSpace_prettyAt (level : Nat) (value : Json) (rest : Source) :
    skipSpace ((prettyAt level value).map some ++ rest) =
      (prettyAt level value).map some ++ rest := by
  obtain ⟨first, others, spelled, start⟩ := exists_prettyAt_cons level value
  have visible : isSpace (some first) = false := by
    simp only [isStart, Bool.and_eq_true, Bool.not_eq_true'] at start
    exact start.1.1
  rw [spelled]
  exact skipSpace_cons visible _

/-- A value starts with nothing that closes an array or an object. -/
theorem prettyAt_ne_cons (level : Nat) (value : Json) {closing : Char}
    (closes : isStart closing = false) (source rest : Source) :
    (prettyAt level value).map some ++ source ≠ some closing :: rest := by
  obtain ⟨first, others, spelled, start⟩ := exists_prettyAt_cons level value
  intro same
  rw [spelled] at same
  obtain rfl : first = closing := Option.some.inj (List.cons.inj same).1
  rw [closes] at start
  cases start

theorem quoted_append (text : String) (source : Source) :
    (quoted text).map some ++ source =
      some '"' :: ((spellText text).map some ++ some '"' :: source) := by
  simp [quoted]

namespace Reads

variable {fuel : Nat}

theorem zero : Reads 0 where
  value := fun level value _ _ short => by
    have positive := length_prettyAt_pos level value
    omega
  items := fun _ _ _ _ _ short => by omega
  members := fun _ _ _ _ _ _ short => by omega

/-- The items up to the closing bracket, one step further. -/
theorem items_succ (reads : Reads fuel) (level outer : Nat) (item : Json) (others : List Json)
    (rest : Source)
    (short : (prettyAt level item).length + (prettyItems level others).length + 1 ≤ fuel + 1) :
    readItems? (fuel + 1) ((prettyAt level item).map some ++ ((prettyItems level others).map some ++
        ((newLine outer).map some ++ some ']' :: rest))) =
      some (tree item :: trees others, rest) := by
  have first := reads.value level item _ (ends_items level outer others (some ']' :: rest)) (by omega)
  rw [readItems?, first]
  cases others with
  | nil =>
      simp only [prettyItems, List.map_nil, List.nil_append, skipSpace_newLine]
      rfl
  | cons next more =>
      simp only [prettyItems, List.length_append, List.length_cons] at short
      have positive := length_prettyAt_pos level item
      have further := reads.items level outer next more rest (by omega)
      have source : (prettyItems level (next :: more)).map some ++
          ((newLine outer).map some ++ some ']' :: rest) =
          some ',' :: ((newLine level).map some ++ ((prettyAt level next).map some ++
            ((prettyItems level more).map some ++
              ((newLine outer).map some ++ some ']' :: rest)))) := by
        simp [prettyItems]
      have comma := skipSpace_cons (rfl : isSpace (some ',') = false)
      simp only [source, comma, readItems?_newLine, further]
      rfl

/-- The members up to the closing brace, one step further. -/
theorem members_succ (reads : Reads fuel) (level outer : Nat) (key : String) (item : Json)
    (others : List (String × Json)) (rest : Source)
    (short : (prettyAt level item).length + (prettyMembers level others).length + 1 ≤ fuel + 1) :
    readMembers? (fuel + 1) ((quoted key).map some ++ some ':' :: some ' ' ::
        ((prettyAt level item).map some ++ ((prettyMembers level others).map some ++
          ((newLine outer).map some ++ some '}' :: rest)))) =
      some (((spellText key).map some, tree item) :: memberTrees others, rest) := by
  have first := reads.value level item _ (ends_members level outer others (some '}' :: rest))
    (by omega)
  have quote := skipSpace_cons (rfl : isSpace (some '"') = false)
  have colon := skipSpace_cons (rfl : isSpace (some ':') = false)
  have comma := skipSpace_cons (rfl : isSpace (some ',') = false)
  rw [readMembers?, quoted_append]
  simp only [quote, stringBody?_spellText, colon, readValue?_blank, first]
  cases others with
  | nil =>
      simp only [prettyMembers, List.map_nil, List.nil_append, skipSpace_newLine]
      rfl
  | cons next more =>
      obtain ⟨name, value⟩ := next
      simp only [prettyMembers, List.length_append, List.length_cons] at short
      have positive := length_prettyAt_pos level item
      have further := reads.members level outer name value more rest (by omega)
      have source : (prettyMembers level ((name, value) :: more)).map some ++
          ((newLine outer).map some ++ some '}' :: rest) =
          some ',' :: ((newLine level).map some ++ ((quoted name).map some ++ some ':' ::
            some ' ' :: ((prettyAt level value).map some ++ ((prettyMembers level more).map some ++
              ((newLine outer).map some ++ some '}' :: rest))))) := by
        simp [prettyMembers]
      simp only [source, comma, readMembers?_newLine, further]
      rfl

/-- A value that is a number, one step further. -/
theorem number_succ (fuel : Nat) (value : Number) (rest : Source) (ends : Ends rest) :
    readValue? (fuel + 1) (value.numeral.print.map some ++ rest) =
      some (.number value.numeral, rest) := by
  have start := skipSpace_prettyAt 0 (.number value) rest
  have read := numeral?_print value ends
  obtain ⟨first, others, printed, sign⟩ := exists_print_cons value
  have plain (letter : Char) (other : letter ≠ '-' ∧ letter.isDigit = false) : first ≠ letter := by
    rintro rfl
    rcases sign with same | digit
    · exact other.1 same
    · rw [other.2] at digit
      cases digit
  rw [prettyAt, printed] at start
  rw [printed] at read ⊢
  rw [readValue?, start]
  split
  case h_7 =>
    rw [read]
    rfl
  all_goals
    rename_i same
    exact absurd (Option.some.inj (List.cons.inj same).1) (plain _ (by decide))

/-- An array with an item, one step further. -/
theorem array_succ (reads : Reads fuel) (level : Nat) (item : Json) (others : List Json)
    (rest : Source) (short : (prettyAt level (.array (item :: others))).length ≤ fuel + 1) :
    readValue? (fuel + 1) ((prettyAt level (.array (item :: others))).map some ++ rest) =
      some (.array (tree item :: trees others), rest) := by
  rw [prettyAt] at short
  simp only [List.length_cons, List.length_append] at short
  have positive : 0 < (newLine (level + 1)).length := Nat.succ_pos _
  have read := reads.items (level + 1) level item others rest (by omega)
  have bracket := skipSpace_cons (rfl : isSpace (some '[') = false)
  have start := skipSpace_prettyAt (level + 1) item
    ((prettyItems (level + 1) others).map some ++ ((newLine level).map some ++ some ']' :: rest))
  have source : (prettyAt level (.array (item :: others))).map some ++ rest =
      some '[' :: ((newLine (level + 1)).map some ++ ((prettyAt (level + 1) item).map some ++
        ((prettyItems (level + 1) others).map some ++
          ((newLine level).map some ++ some ']' :: rest)))) := by
    simp [prettyAt]
  rw [source, readValue?, bracket]
  simp only [skipSpace_newLine, start]
  split
  · rename_i same
    exact absurd same (prettyAt_ne_cons _ _ (by decide) _ _)
  · rw [read]
    rfl

/-- An object with a member, one step further. -/
theorem object_succ (reads : Reads fuel) (level : Nat) (key : String) (item : Json)
    (others : List (String × Json)) (rest : Source)
    (short : (prettyAt level (.object ((key, item) :: others))).length ≤ fuel + 1) :
    readValue? (fuel + 1) ((prettyAt level (.object ((key, item) :: others))).map some ++ rest) =
      some (.object (((spellText key).map some, tree item) :: memberTrees others), rest) := by
  rw [prettyAt] at short
  simp only [List.length_cons, List.length_append] at short
  have positive : 0 < (newLine (level + 1)).length := Nat.succ_pos _
  have read := reads.members (level + 1) level key item others rest (by omega)
  have brace := skipSpace_cons (rfl : isSpace (some '{') = false)
  have quote := skipSpace_cons (rfl : isSpace (some '"') = false)
  have source : (prettyAt level (.object ((key, item) :: others))).map some ++ rest =
      some '{' :: ((newLine (level + 1)).map some ++ ((quoted key).map some ++ some ':' ::
        some ' ' :: ((prettyAt (level + 1) item).map some ++
          ((prettyMembers (level + 1) others).map some ++
            ((newLine level).map some ++ some '}' :: rest))))) := by
    simp [prettyAt]
  rw [source, readValue?, brace]
  rw [quoted_append] at read ⊢
  simp only [skipSpace_newLine, quote]
  split
  · rename_i same
    cases same
  · rw [read]
    rfl

/-- A value, one step further. -/
theorem value_succ (reads : Reads fuel) (level : Nat) (value : Json) (rest : Source)
    (ends : Ends rest) (short : (prettyAt level value).length ≤ fuel + 1) :
    readValue? (fuel + 1) ((prettyAt level value).map some ++ rest) = some (tree value, rest) := by
  cases value with
  | null =>
      rw [prettyAt, readValue?]
      rfl
  | bool value =>
      cases value <;> (rw [prettyAt, readValue?]; rfl)
  | number value =>
      rw [prettyAt]
      exact number_succ fuel value rest ends
  | string text =>
      have quote := skipSpace_cons (rfl : isSpace (some '"') = false)
      rw [prettyAt, readValue?, quoted_append]
      simp only [quote, stringBody?_spellText]
      rfl
  | array items =>
      cases items with
      | nil =>
          rw [prettyAt, readValue?]
          rfl
      | cons item others => exact reads.array_succ level item others rest short
  | object members =>
      cases members with
      | nil =>
          rw [prettyAt, readValue?]
          rfl
      | cons member others => exact reads.object_succ level member.1 member.2 others rest short

end Reads

/-- **A number of steps suffices for every text that is no longer.** -/
theorem reads (fuel : Nat) : Reads fuel := by
  induction fuel with
  | zero => exact .zero
  | succ fuel hyp => exact ⟨hyp.value_succ, hyp.items_succ, hyp.members_succ⟩

/-- **A document that was laid out is read back** as what its value is spelled by. -/
theorem read?_pretty (value : Json) : read? ((prettyAt 0 value).map some) = some (tree value) := by
  have whole := (reads (2 * ((prettyAt 0 value).map some).length + 2)).value 0 value [] ends_nil
    (by rw [List.length_map]; omega)
  rw [List.append_nil] at whole
  rw [read?, whole]
  rfl

/-- The contents of a file that holds a document are read back. -/
theorem ofBytes?_encode (value : Json) :
    ofBytes? (Utf8.encode (prettyAt 0 value)) = some (tree value) := by
  rw [ofBytes?, Utf8.decode_encode, read?_pretty]

end Provision.Json
