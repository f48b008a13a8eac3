/-
**Beginnings of JSON texts.**

A writer that stops half way leaves the beginning of a text. The reader does not take it for a whole
one:

* `Steady` says of a number of steps that what they read is read of every longer text, too, as long as
  it ends before the text does or is no number;
* `steady` goes by induction on the number of steps, as `reads` does;
* **`read?_beginning`** — no proper beginning of an object that was laid out is a document.
-/

import Provision.Proofs.Json.Texts

namespace Provision.Json

/-! ### Leaves -/

/-- The body of a string ends at its closing quote, whatever is behind. -/
theorem stringBody?_extend {source body after : Source} (read : stringBody? source = some (body, after))
    (more : Source) : stringBody? (source ++ more) = some (body, after ++ more) := by
  fun_induction stringBody? source generalizing body after with
  | case1 rest =>
      cases read
      rfl
  | case2 a b c d rest known hyp =>
      obtain ⟨⟨inner, left⟩, further, same⟩ := Option.map_eq_some_iff.mp read
      cases same
      simp only [List.cons_append, stringBody?, if_pos known, hyp further, Option.map_some]
  | case4 letter rest other known hyp =>
      obtain ⟨⟨inner, left⟩, further, same⟩ := Option.map_eq_some_iff.mp read
      cases same
      have noUnit : letter ≠ 'u' := by
        rintro rfl
        cases known
      rw [List.cons_append, List.cons_append, stringBody?.eq_3 _ _ fun _ _ _ _ _ _ unit => noUnit unit,
        if_pos known, hyp further]
      rfl
  | case8 character rest unquoted _ _ unslashed printed hyp =>
      obtain ⟨⟨inner, left⟩, further, same⟩ := Option.map_eq_some_iff.mp read
      cases same
      rw [List.cons_append, stringBody?.eq_5 _ _ unquoted (fun _ _ _ _ _ _ => unslashed)
        (fun _ _ _ => unslashed) unslashed, if_neg printed, hyp further]
      rfl
  | case9 rest hyp =>
      obtain ⟨⟨inner, left⟩, further, same⟩ := Option.map_eq_some_iff.mp read
      cases same
      rw [List.cons_append, stringBody?, hyp further]
      rfl
  | case3 | case5 | case6 | case7 | case10 => cases read

/-- Digits that end before the text does end there in every longer text. -/
theorem takeDigits_extend {source rest : Source} {digits : List Char}
    (taken : takeDigits source = (digits, rest)) (goesOn : rest ≠ []) (more : Source) :
    takeDigits (source ++ more) = (digits, rest ++ more) := by
  fun_induction takeDigits source generalizing digits rest with
  | case1 character others digit inner after further hyp =>
      cases taken
      simp only [List.cons_append, takeDigits, if_pos digit, hyp further goesOn]
  | case2 character others letter =>
      cases taken
      simp only [List.cons_append, takeDigits, if_neg letter]
  | case3 source noCharacter =>
      cases taken
      cases source with
      | nil => exact absurd rfl goesOn
      | cons first others =>
          cases first with
          | none => rfl
          | some character => exact absurd rfl (noCharacter character others)

theorem fraction?_extend {source rest : Source} {digits : List Char}
    (taken : fraction? source = some (digits, rest)) (goesOn : rest ≠ []) (more : Source) :
    fraction? (source ++ more) = some (digits, rest ++ more) := by
  cases source with
  | nil =>
      cases taken
      exact absurd rfl goesOn
  | cons first behind =>
      by_cases point : first = some '.'
      · subst point
        rw [List.cons_append, fraction?]
        rw [fraction?] at taken
        cases read : takeDigits behind with
        | mk inner after =>
            rw [read] at taken
            cases inner with
            | nil => cases taken
            | cons digit others =>
                cases taken
                rw [takeDigits_extend read goesOn]
      · have same (others : Source) : fraction? (first :: others) = some ([], first :: others) := by
          unfold fraction?
          split
          next spelled => exact absurd (List.cons.inj spelled).1 point
          next => rfl
        rw [same] at taken
        cases taken
        exact same _

theorem exponentDigits?_extend {negative : Bool} {source rest : Source}
    {exponent : Option (Bool × List Char)}
    (taken : exponentDigits? negative source = some (exponent, rest)) (goesOn : rest ≠ [])
    (more : Source) : exponentDigits? negative (source ++ more) = some (exponent, rest ++ more) := by
  unfold exponentDigits? at taken ⊢
  cases read : takeDigits source with
  | mk inner after =>
      rw [read] at taken
      cases inner with
      | nil => cases taken
      | cons digit others =>
          cases taken
          rw [takeDigits_extend read goesOn]

/-- Behind the letter of an exponent stands its sign, if it has one. -/
theorem exponent?_of_mark {letter : Char} (mark : (letter == 'e' || letter == 'E') = true)
    (sign : Option Char) (behind : Source) :
    exponent? (some letter :: sign :: behind) =
      if sign = some '+' then exponentDigits? false behind
      else if sign = some '-' then exponentDigits? true behind
      else exponentDigits? false (sign :: behind) := by
  unfold exponent?
  simp only [mark, if_true]
  split
  next spelled =>
    obtain ⟨rfl, rfl⟩ := List.cons.inj spelled
    rfl
  next spelled =>
    obtain ⟨rfl, rfl⟩ := List.cons.inj spelled
    rfl
  next noPlus noMinus =>
    have plus : sign ≠ some '+' := fun same => noPlus behind (by rw [same])
    have minus : sign ≠ some '-' := fun same => noMinus behind (by rw [same])
    rw [if_neg plus, if_neg minus]

theorem exponent?_of_not_mark {letter : Char} (other : ¬(letter == 'e' || letter == 'E') = true)
    (behind : Source) : exponent? (some letter :: behind) = some (none, some letter :: behind) := by
  unfold exponent?
  exact if_neg other

theorem exponent?_extend {source rest : Source} {exponent : Option (Bool × List Char)}
    (taken : exponent? source = some (exponent, rest)) (goesOn : rest ≠ []) (more : Source) :
    exponent? (source ++ more) = some (exponent, rest ++ more) := by
  cases source with
  | nil =>
      cases taken
      exact absurd rfl goesOn
  | cons first behind =>
      cases first with
      | none =>
          cases taken
          rfl
      | some letter =>
          rw [List.cons_append]
          by_cases mark : (letter == 'e' || letter == 'E') = true
          · cases behind with
            | nil =>
                unfold exponent? at taken
                simp only [mark, if_true] at taken
                cases taken
            | cons sign digits =>
                rw [List.cons_append]
                rw [exponent?_of_mark mark] at taken ⊢
                by_cases plus : sign = some '+'
                · rw [if_pos plus] at taken ⊢
                  exact exponentDigits?_extend taken goesOn more
                rw [if_neg plus] at taken ⊢
                by_cases minus : sign = some '-'
                · rw [if_pos minus] at taken ⊢
                  exact exponentDigits?_extend taken goesOn more
                · rw [if_neg minus] at taken ⊢
                  exact exponentDigits?_extend taken goesOn more
          · rw [exponent?_of_not_mark mark] at taken ⊢
            cases taken
            rfl

/-- **A number that ends before the text does** ends there in every longer text. -/
theorem unsigned?_extend {negative : Bool} {source rest : Source} {numeral : Numeral}
    (read : unsigned? negative source = some (numeral, rest)) (goesOn : rest ≠ []) (more : Source) :
    unsigned? negative (source ++ more) = some (numeral, rest ++ more) := by
  unfold unsigned? at read ⊢
  cases taken : takeDigits source with
  | mk whole behind =>
      simp only [taken] at read
      split at read
      · cases read
      next plain =>
        obtain ⟨⟨fraction, behind'⟩, point, read⟩ := Option.bind_eq_some_iff.mp read
        obtain ⟨⟨exponent, last⟩, scale, same⟩ := Option.bind_eq_some_iff.mp read
        cases same
        have second : behind' ≠ [] := by
          rintro rfl
          cases scale
          exact goesOn rfl
        have first : behind ≠ [] := by
          rintro rfl
          cases point
          exact second rfl
        simp only [takeDigits_extend taken first, if_neg plain, fraction?_extend point second,
          exponent?_extend scale goesOn, Option.bind_eq_bind, Option.bind_some]
        rfl

/-- A number starts with its sign or with a digit. -/
theorem exists_cons_of_numeral? {source rest : Source} {numeral : Numeral}
    (read : numeral? source = some (numeral, rest)) :
    ∃ first others, source = some first :: others ∧ (first = '-' ∨ first.isDigit = true) := by
  unfold numeral? at read
  split at read
  next others => exact ⟨'-', others, rfl, .inl rfl⟩
  next noSign =>
    unfold unsigned? at read
    fun_cases takeDigits source with
    | case1 first others digit => exact ⟨first, others, rfl, .inr digit⟩
    | case2 first others letter =>
        rw [takeDigits, if_neg letter] at read
        cases read
    | case3 source noCharacter =>
        rw [takeDigits] at read
        · cases read
        · exact noCharacter

theorem numeral?_extend {source rest : Source} {numeral : Numeral}
    (read : numeral? source = some (numeral, rest)) (goesOn : rest ≠ []) (more : Source) :
    numeral? (source ++ more) = some (numeral, rest ++ more) := by
  obtain ⟨first, others, rfl, -⟩ := exists_cons_of_numeral? read
  have opened (behind : Source) : numeral? (some first :: behind) =
      if first = '-' then unsigned? true behind else unsigned? false (some first :: behind) := by
    unfold numeral?
    split
    next spelled =>
      obtain ⟨same, rfl⟩ := List.cons.inj spelled
      rw [if_pos (Option.some.inj same)]
    next noSign => rw [if_neg fun sign => noSign behind (by rw [sign])]
  rw [List.cons_append]
  rw [opened] at read ⊢
  by_cases sign : first = '-'
  · rw [if_pos sign] at read ⊢
    exact unsigned?_extend read goesOn more
  · rw [if_neg sign] at read ⊢
    exact unsigned?_extend read goesOn more

/-! ### Steps -/

theorem skipSpace_extend {source : Source} (visible : skipSpace source ≠ []) (more : Source) :
    skipSpace (source ++ more) = skipSpace source ++ more := by
  unfold skipSpace at visible ⊢
  rw [List.dropWhile_append, if_neg (by simpa using visible)]

theorem ne_of_sign {first letter : Char} (sign : first = '-' ∨ first.isDigit = true)
    (other : letter ≠ '-' ∧ letter.isDigit = false) : first ≠ letter := by
  rintro rfl
  rcases sign with same | digit
  · exact other.1 same
  · rw [other.2] at digit
    cases digit

theorem skipSpace_of_sign {first : Char} (sign : first = '-' ∨ first.isDigit = true)
    (others : Source) : skipSpace (some first :: others) = some first :: others := by
  refine skipSpace_cons ?_ others
  simp [isSpace, ne_of_sign sign]

/-- What starts with a sign or a digit is read as a number. -/
theorem readValue?_of_sign (fuel : Nat) {first : Char} (sign : first = '-' ∨ first.isDigit = true)
    (others : Source) :
    readValue? (fuel + 1) (some first :: others) =
      (numeral? (some first :: others)).map fun read => (.number read.1, read.2) := by
  rw [readValue?, skipSpace_of_sign sign]
  split
  case h_7 => rfl
  all_goals
    rename_i same
    exact absurd (Option.some.inj (List.cons.inj same).1) (ne_of_sign sign (by decide))

/-- A text that is not empty starts as every longer one does. -/
theorem exists_cons_of_append {source more after : Source} {first : Option Char}
    (visible : source ≠ []) (starts : source ++ more = first :: after) :
    ∃ others, source = first :: others := by
  obtain ⟨own, others, rfl⟩ := List.exists_cons_of_ne_nil visible
  exact ⟨others, by rw [(List.cons.inj starts).1]⟩

/-- What some steps read is read of every longer text in as many steps or more. A number has to end
before the text does. -/
structure Steady (fuel : Nat) : Prop where
  value : ∀ {source rest : Source} {tree : Tree}, readValue? fuel source = some (tree, rest) →
    (rest ≠ [] ∨ ∀ numeral, tree ≠ .number numeral) → ∀ {steps : Nat}, fuel ≤ steps →
      ∀ more, readValue? steps (source ++ more) = some (tree, rest ++ more)
  items : ∀ {source rest : Source} {items : List Tree}, readItems? fuel source = some (items, rest) →
    ∀ {steps : Nat}, fuel ≤ steps →
      ∀ more, readItems? steps (source ++ more) = some (items, rest ++ more)
  members : ∀ {source rest : Source} {members : List (Source × Tree)},
    readMembers? fuel source = some (members, rest) → ∀ {steps : Nat}, fuel ≤ steps →
      ∀ more, readMembers? steps (source ++ more) = some (members, rest ++ more)

theorem skipSpace_ne_nil_of_value {fuel : Nat} {source : Source} {read : Tree × Source}
    (known : readValue? fuel source = some read) : skipSpace source ≠ [] := by
  intro blank
  cases fuel with
  | zero => cases known
  | succ fuel =>
      rw [readValue?, blank] at known
      cases known

namespace Steady

variable {fuel : Nat}

theorem zero : Steady 0 where
  value := fun read _ => nomatch read
  items := fun read => nomatch read
  members := fun read => nomatch read

/-- The items up to the closing bracket, one step further. -/
theorem items_succ (steady : Steady fuel) {source rest : Source} {items : List Tree}
    (read : readItems? (fuel + 1) source = some (items, rest)) {steps : Nat} (enough : fuel ≤ steps)
    (more : Source) : readItems? (steps + 1) (source ++ more) = some (items, rest ++ more) := by
  rw [readItems?] at read
  split at read
  · cases read
  next item behind first =>
    split at read
    next others comma =>
      obtain ⟨⟨further, last⟩, later, same⟩ := Option.map_eq_some_iff.mp read
      cases same
      have visible : skipSpace behind ≠ [] := by rw [comma]; exact List.cons_ne_nil _ _
      have goesOn : behind ≠ [] := by rintro rfl; exact visible rfl
      rw [readItems?, steady.value first (.inl goesOn) enough]
      simp only [skipSpace_extend visible, comma, List.cons_append, steady.items later enough]
      rfl
    next after close =>
      cases read
      have visible : skipSpace behind ≠ [] := by rw [close]; exact List.cons_ne_nil _ _
      have goesOn : behind ≠ [] := by rintro rfl; exact visible rfl
      rw [readItems?, steady.value first (.inl goesOn) enough]
      simp only [skipSpace_extend visible, close, List.cons_append]
    next => cases read

/-- The members up to the closing brace, one step further. -/
theorem members_succ (steady : Steady fuel) {source rest : Source} {members : List (Source × Tree)}
    (read : readMembers? (fuel + 1) source = some (members, rest)) {steps : Nat}
    (enough : fuel ≤ steps) (more : Source) :
    readMembers? (steps + 1) (source ++ more) = some (members, rest ++ more) := by
  rw [readMembers?] at read
  split at read
  next quoted quote =>
    have start : skipSpace source ≠ [] := by rw [quote]; exact List.cons_ne_nil _ _
    split at read
    · cases read
    next key behindKey body =>
      split at read
      next value colon =>
        have middle : skipSpace behindKey ≠ [] := by rw [colon]; exact List.cons_ne_nil _ _
        split at read
        · cases read
        next item behind first =>
          split at read
          next others comma =>
            obtain ⟨⟨further, last⟩, later, same⟩ := Option.map_eq_some_iff.mp read
            cases same
            have ends : skipSpace behind ≠ [] := by rw [comma]; exact List.cons_ne_nil _ _
            have goesOn : behind ≠ [] := by rintro rfl; exact ends rfl
            rw [readMembers?, skipSpace_extend start, quote]
            simp only [List.cons_append, stringBody?_extend body, skipSpace_extend middle, colon,
              steady.value first (.inl goesOn) enough, skipSpace_extend ends, comma,
              steady.members later enough]
            rfl
          next after close =>
            cases read
            have ends : skipSpace behind ≠ [] := by rw [close]; exact List.cons_ne_nil _ _
            have goesOn : behind ≠ [] := by rintro rfl; exact ends rfl
            rw [readMembers?, skipSpace_extend start, quote]
            simp only [List.cons_append, stringBody?_extend body, skipSpace_extend middle, colon,
              steady.value first (.inl goesOn) enough, skipSpace_extend ends, close]
          next => cases read
      next => cases read
  next => cases read

theorem ne_nil_of_items {source : Source} {read : List Tree × Source}
    (known : readItems? fuel source = some read) : source ≠ [] := by
  rintro rfl
  cases fuel with
  | zero => cases known
  | succ fuel =>
      cases fuel <;> cases known

theorem ne_nil_of_members {source : Source} {read : List (Source × Tree) × Source}
    (known : readMembers? fuel source = some read) : source ≠ [] := by
  rintro rfl
  cases fuel <;> cases known

/-- A value, one step further. -/
theorem value_succ (steady : Steady fuel) {source rest : Source} {tree : Tree}
    (read : readValue? (fuel + 1) source = some (tree, rest))
    (ends : rest ≠ [] ∨ ∀ numeral, tree ≠ .number numeral) {steps : Nat} (enough : fuel ≤ steps)
    (more : Source) : readValue? (steps + 1) (source ++ more) = some (tree, rest ++ more) := by
  have visible := skipSpace_ne_nil_of_value read
  rw [readValue?] at read ⊢
  rw [skipSpace_extend visible]
  split at read
  next spelled =>
    rw [spelled]
    cases read
    rfl
  next spelled =>
    rw [spelled]
    cases read
    rfl
  next spelled =>
    rw [spelled]
    cases read
    rfl
  next quoted spelled =>
    rw [spelled]
    obtain ⟨⟨body, after⟩, closed, same⟩ := Option.map_eq_some_iff.mp read
    cases same
    simp only [List.cons_append, stringBody?_extend closed]
    rfl
  next inside spelled =>
    rw [spelled]
    simp only [List.cons_append]
    split at read
    next after close =>
      cases read
      have visible : skipSpace inside ≠ [] := by rw [close]; exact List.cons_ne_nil _ _
      rw [skipSpace_extend visible, close]
      rfl
    next noClose =>
      obtain ⟨⟨items, after⟩, listed, same⟩ := Option.map_eq_some_iff.mp read
      cases same
      have visible := ne_nil_of_items listed
      rw [skipSpace_extend visible]
      split
      next close =>
        obtain ⟨others, closed⟩ := exists_cons_of_append visible close
        exact absurd closed (noClose others)
      next =>
        rw [steady.items listed enough]
        rfl
  next inside spelled =>
    rw [spelled]
    simp only [List.cons_append]
    split at read
    next after close =>
      cases read
      have visible : skipSpace inside ≠ [] := by rw [close]; exact List.cons_ne_nil _ _
      rw [skipSpace_extend visible, close]
      rfl
    next noClose =>
      obtain ⟨⟨members, after⟩, listed, same⟩ := Option.map_eq_some_iff.mp read
      cases same
      have visible := ne_nil_of_members listed
      rw [skipSpace_extend visible]
      split
      next close =>
        obtain ⟨others, closed⟩ := exists_cons_of_append visible close
        exact absurd closed (noClose others)
      next =>
        rw [steady.members listed enough]
        rfl
  next =>
    obtain ⟨⟨numeral, after⟩, known, same⟩ := Option.map_eq_some_iff.mp read
    cases same
    have goesOn : rest ≠ [] := by
      rcases ends with goesOn | other
      · exact goesOn
      · exact absurd rfl (other numeral)
    obtain ⟨first, others, spelled, sign⟩ := exists_cons_of_numeral? known
    have whole := readValue?_of_sign steps sign (others ++ more)
    rw [readValue?, skipSpace_of_sign sign] at whole
    rw [spelled] at known ⊢
    have longer := numeral?_extend known goesOn more
    rw [List.cons_append] at longer ⊢
    rw [whole, longer]
    rfl

end Steady

/-- **What some steps read is read of every longer text.** -/
theorem steady (fuel : Nat) : Steady fuel := by
  induction fuel with
  | zero => exact .zero
  | succ fuel hyp =>
      constructor
      · intro source rest tree read ends steps enough more
        obtain ⟨steps, rfl⟩ : ∃ fewer, steps = fewer + 1 := ⟨steps - 1, by omega⟩
        exact hyp.value_succ read ends (by omega) more
      · intro source rest items read steps enough more
        obtain ⟨steps, rfl⟩ : ∃ fewer, steps = fewer + 1 := ⟨steps - 1, by omega⟩
        exact hyp.items_succ read (by omega) more
      · intro source rest members read steps enough more
        obtain ⟨steps, rfl⟩ : ∃ fewer, steps = fewer + 1 := ⟨steps - 1, by omega⟩
        exact hyp.members_succ read (by omega) more

/-! ### Beginnings -/

/-- What starts with a brace is read as an object. -/
theorem ne_number_of_brace {fuel : Nat} {source rest : Source} {tree : Tree}
    (brace : source.head? = some (some '{')) (read : readValue? fuel source = some (tree, rest))
    (numeral : Numeral) : tree ≠ .number numeral := by
  obtain ⟨others, rfl⟩ := List.head?_eq_some_iff.mp brace
  cases fuel with
  | zero => cases read
  | succ fuel =>
      rw [readValue?, skipSpace_cons rfl] at read
      simp only at read
      intro same
      subst same
      split at read
      · cases read
      · obtain ⟨⟨members, after⟩, -, impossible⟩ := Option.map_eq_some_iff.mp read
        cases impossible

theorem head?_prettyAt_object (members : List (String × Json)) :
    (prettyAt 0 (.object members)).head? = some '{' := by
  cases members with
  | nil => rw [prettyAt, List.head?_cons]
  | cons member rest =>
      rw [prettyAt]
      rfl

/-- **No proper beginning of an object is a document.** -/
theorem read?_beginning {members : List (String × Json)} {count : Nat}
    (proper : count < (prettyAt 0 (.object members)).length) :
    read? (((prettyAt 0 (.object members)).take count).map some) = none := by
  have brace := head?_prettyAt_object members
  have whole (steps : Nat) := (reads steps).value 0 (.object members) [] ends_nil
  generalize prettyAt 0 (.object members) = text at brace whole proper
  cases count with
  | zero => rfl
  | succ count =>
      have first : ((text.take (count + 1)).map some).head? = some (some '{') := by
        rw [List.head?_map, List.head?_take, if_neg (Nat.succ_ne_zero count), brace]
        rfl
      have parts : (text.take (count + 1)).map some ++ (text.drop (count + 1)).map some =
          text.map some := by
        rw [← List.map_append, List.take_append_drop]
      rw [read?]
      generalize 2 * ((text.take (count + 1)).map some).length + 2 = fuel
      cases read : readValue? fuel ((text.take (count + 1)).map some) with
      | none => rfl
      | some found =>
          obtain ⟨found, rest⟩ := found
          have longer := (steady fuel).value read (.inr (ne_number_of_brace first read))
            (Nat.le_add_right fuel text.length) ((text.drop (count + 1)).map some)
          have all := whole (fuel + text.length) (Nat.le_add_left _ _)
          rw [List.append_nil] at all
          rw [parts, all] at longer
          have ended := (Prod.mk.inj (Option.some.inj longer)).2
          have last := (List.append_eq_nil_iff.mp ended.symm).2
          rw [List.map_eq_nil_iff, List.drop_eq_nil_iff] at last
          omega

end Provision.Json
