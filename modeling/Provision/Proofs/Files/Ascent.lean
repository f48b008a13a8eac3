/-
**The way up from a directory.**

The directories above a path are listed in one go. Here the list is that of going up one at a time:

* `Path.Ascent` goes from a path to the one above it until there is none;
* **`Path.ascent_parents`** — the listed directories are such an ascent, so going up comes to an end;
* `Path.mem_segments_of_mem_parents`: on the way up there are no other names than those of the path;
* `FileTree.exists_parent_of_read`: whatever can be read is in a directory.
-/

import Provision.Proofs.Files.Joins
import Provision.Proofs.Files.Walk

namespace Provision.Path

/-! ### Segments and their text -/

theorem noSlash_of_mem_split {text segment : List Char} (member : segment ∈ split text) :
    '/' ∉ segment := by
  induction text generalizing segment with
  | nil =>
      obtain rfl := List.mem_singleton.mp member
      exact List.not_mem_nil
  | cons first rest hyp =>
      unfold split at member
      by_cases slash : first = '/'
      · rw [if_pos slash] at member
        rcases List.mem_cons.mp member with rfl | later
        · exact List.not_mem_nil
        · exact hyp later
      · rw [if_neg slash] at member
        obtain ⟨own, others, spelled⟩ := List.exists_cons_of_ne_nil (split_ne_nil rest)
        rw [spelled] at member hyp
        rcases List.mem_cons.mp member with rfl | later
        · rw [List.mem_cons, not_or]
          exact ⟨Ne.symm slash, hyp List.mem_cons_self⟩
        · exact hyp (List.mem_cons_of_mem _ later)

/-- Segments without a slash are the segments of their text. -/
theorem split_intercalate {segments : List (List Char)} (some : segments ≠ [])
    (noSlash : ∀ segment ∈ segments, '/' ∉ segment) :
    split (List.intercalate ['/'] segments) = segments := by
  induction segments with
  | nil => exact absurd rfl some
  | cons first rest hyp =>
      have own := noSlash first List.mem_cons_self
      cases rest with
      | nil =>
          rw [List.intercalate_singleton]
          exact split_of_notMem own
      | cons second others =>
          have further := hyp (List.cons_ne_nil _ _) fun segment member =>
            noSlash segment (List.mem_cons_of_mem _ member)
          rw [List.intercalate_cons_cons, List.append_assoc, List.singleton_append, split_append,
            split_of_notMem own, further]
          rfl

theorem mem_segments_iff {path segment : String} :
    segment ∈ segments path ↔ segment.toList ∈ split path.toList := by
  rw [segments, List.mem_map]
  constructor
  · rintro ⟨characters, member, rfl⟩
    rwa [String.toList_ofList]
  · intro member
    exact ⟨segment.toList, member, String.ofList_toList⟩

/-! ### What a path starts with -/

/-- What a path starts with fits the segments behind it: a dot has a slash behind it, and nothing is
not followed by a segment that leads nowhere. -/
def Suits (start : List Char) (segments : List (List Char)) : Prop :=
  start = ['/'] ∨ (start = ['.'] ∧ segments.head? = some []) ∨
    (start = [] ∧ ∀ segment, segments.head? = some segment → isIdle segment = true → segments = [[]])

theorem suits_lead (text : List Char) : Suits (lead text).1 (split (lead text).2) := by
  unfold lead
  split
  · exact .inl rfl
  · exact .inr (.inl ⟨rfl, rfl⟩)
  · exact .inr (.inl ⟨rfl, rfl⟩)
  next noSlash noDot noDots =>
    refine .inr (.inr ⟨rfl, ?_⟩)
    intro segment head idle
    cases text with
    | nil => rfl
    | cons first rest =>
        have slash : first ≠ '/' := fun same => noSlash rest (by rw [same])
        obtain ⟨own, others, spelled⟩ := List.exists_cons_of_ne_nil (split_ne_nil rest)
        simp only [split, if_neg slash, spelled, List.head?_cons, Option.some.injEq] at head
        subst head
        simp only [isIdle, List.isEmpty_cons, Bool.false_or, beq_iff_eq, List.cons.injEq] at idle
        obtain ⟨rfl, rfl⟩ := idle
        cases rest with
        | nil => exact absurd rfl noDot
        | cons second further =>
            by_cases again : second = '/'
            · exact absurd (by rw [again]) (noDots further)
            · simp only [split, if_neg again] at spelled
              split at spelled <;> simp at spelled

/-- Nothing is in front of a segment that leads somewhere. -/
theorem lead_of_firm {segment : List Char} (firm : isIdle segment = false) (noSlash : '/' ∉ segment)
    (behind : List Char) : lead (segment ++ behind) = ([], segment ++ behind) := by
  cases segment with
  | nil => exact absurd firm (by decide)
  | cons first rest =>
      rw [List.mem_cons, not_or] at noSlash
      unfold lead
      split
      next spelled => exact absurd (List.cons.inj spelled).1.symm noSlash.1
      next spelled =>
        obtain ⟨rfl, empty⟩ := List.cons.inj spelled
        obtain ⟨rfl, -⟩ := List.append_eq_nil_iff.mp empty
        exact absurd firm (by decide)
      next spelled =>
        obtain ⟨rfl, others⟩ := List.cons.inj spelled
        cases rest with
        | nil => exact absurd firm (by decide)
        | cons second further =>
            obtain ⟨rfl, -⟩ := List.cons.inj others
            exact absurd List.mem_cons_self noSlash.2
      · rfl

/-- **The same start is found in front of fewer segments**, unless the last of them leads nowhere. -/
theorem lead_of_suits {start : List Char} {segments front : List (List Char)}
    (suits : Suits start segments) (fewer : front <+: segments)
    (noSlash : ∀ segment ∈ front, '/' ∉ segment)
    (ends : ∀ segment, front.getLast? = some segment → isIdle segment = false) :
    lead (start ++ List.intercalate ['/'] front) = (start, List.intercalate ['/'] front) := by
  rcases suits with rfl | ⟨rfl, slash⟩ | ⟨rfl, named⟩
  · rfl
  · cases front with
    | nil => rfl
    | cons first rest =>
        obtain ⟨others, whole⟩ := fewer
        obtain rfl : first = [] := by
          rw [← whole] at slash
          exact Option.some.inj slash
        cases rest with
        | nil => exact absurd (ends [] rfl) (by decide)
        | cons second further => rfl
  · cases front with
    | nil => rfl
    | cons first rest =>
        obtain ⟨others, whole⟩ := fewer
        have firm : isIdle first = false := by
          rw [← Bool.not_eq_true]
          intro idle
          have only := named first (by rw [← whole]; rfl) idle
          rw [← whole, List.cons_append, List.cons.injEq, List.append_eq_nil_iff] at only
          obtain ⟨rfl, rfl, -⟩ := only
          exact absurd (ends [] rfl) (by decide)
        have spelled : ∃ behind, List.intercalate ['/'] (first :: rest) = first ++ behind := by
          cases rest with
          | nil => exact ⟨[], by rw [List.intercalate_singleton, List.append_nil]⟩
          | cons second further =>
              exact ⟨_, by rw [List.intercalate_cons_cons, List.append_assoc]⟩
        obtain ⟨behind, same⟩ := spelled
        rw [List.nil_append, same]
        exact lead_of_firm firm (noSlash first List.mem_cons_self) behind

/-! ### Going up -/

theorem parentsOf_dropWhile (start : List Char) (segments : List (List Char)) :
    parentsOf start (segments.dropWhile isIdle) = parentsOf start segments := by
  induction segments with
  | nil => rfl
  | cons segment rest hyp =>
      by_cases idle : isIdle segment = true
      · rw [List.dropWhile_cons_of_pos idle, hyp, parentsOf, if_pos idle]
      · rw [List.dropWhile_cons_of_neg idle]

/-- The directories above a path are the one above it and those above that one. -/
theorem parents_of_parent?_eq_some {path above : String} (next : parent? path = some above) :
    parents path = above :: parents above := by
  have suits := suits_lead path.toList
  have plain : ∀ segment ∈ split (lead path.toList).2, '/' ∉ segment :=
    fun segment member => noSlash_of_mem_split member
  unfold parent? at next
  unfold parents at next ⊢
  generalize lead path.toList = led at suits plain next ⊢
  obtain ⟨start, text⟩ := led
  simp only at suits plain next ⊢
  rw [← parentsOf_dropWhile] at next ⊢
  cases left : (split text).reverse.dropWhile isIdle with
  | nil =>
      rw [left, parentsOf] at next
      by_cases dot : start = ['.']
      · rw [if_pos dot] at next
        obtain rfl := Option.some.inj next
        rw [parentsOf, if_pos dot]
        rfl
      · rw [if_neg dot] at next
        cases next
  | cons segment rest =>
      have firm : ¬isIdle segment = true := by
        have first := List.head?_dropWhile_not isIdle (split text).reverse
        rw [left, List.head?_cons] at first
        simpa using first
      rw [left, parentsOf, if_neg firm] at next
      rw [parentsOf, if_neg firm, ← parentsOf_dropWhile start rest]
      obtain rfl := Option.some.inj next
      have fewer : (rest.dropWhile isIdle).reverse <+: split text := by
        rw [← List.reverse_suffix, List.reverse_reverse]
        have own : segment :: rest <:+ (split text).reverse := left ▸ List.dropWhile_suffix _
        exact (List.dropWhile_suffix _).trans ((List.suffix_cons _ _).trans own)
      have ends : ∀ last, (rest.dropWhile isIdle).reverse.getLast? = some last →
          isIdle last = false := by
        intro last here
        rw [List.getLast?_reverse] at here
        have first := List.head?_dropWhile_not isIdle rest
        rw [here] at first
        simpa using first
      have noSlash : ∀ segment ∈ (rest.dropWhile isIdle).reverse, '/' ∉ segment :=
        fun segment member => plain segment (fewer.subset member)
      rw [List.map_cons]
      congr 1
      rw [String.toList_ofList, lead_of_suits suits fewer noSlash ends]
      by_cases none : rest.dropWhile isIdle = []
      · rw [none]
        rfl
      · rw [split_intercalate (by simpa using none) noSlash, List.reverse_reverse]

theorem parents_of_parent?_eq_none {path : String} (top : parent? path = none) : parents path = [] :=
  List.head?_eq_none_iff.mp top

/-- The directories that are passed on the way up from a path, up to one that nothing is above. -/
inductive Ascent : String → List String → Prop
  | top {path : String} (top : parent? path = none) : Ascent path []
  | up {path above : String} {rest : List String} (next : parent? path = some above)
      (further : Ascent above rest) : Ascent path (above :: rest)

/-- **Going up passes the listed directories and comes to an end.** -/
theorem ascent_parents (path : String) : Ascent path (parents path) := by
  generalize listed : parents path = passed
  induction passed generalizing path with
  | nil =>
      have top : parent? path = none := by rw [parent?, listed]; rfl
      exact .top top
  | cons above rest hyp =>
      have next : parent? path = some above := by rw [parent?, listed]; rfl
      rw [parents_of_parent?_eq_some next, List.cons.injEq] at listed
      exact .up next (hyp above listed.2)

/-! ### Names on the way up -/

theorem mem_of_mem_split_intercalate {front : List (List Char)} {segment : List Char}
    (noSlash : ∀ segment ∈ front, '/' ∉ segment)
    (member : segment ∈ split (List.intercalate ['/'] front)) : segment = [] ∨ segment ∈ front := by
  cases front with
  | nil => exact .inl (List.mem_singleton.mp member)
  | cons first rest =>
      rw [split_intercalate (List.cons_ne_nil _ _) noSlash] at member
      exact .inr member

/-- In front of fewer segments nothing else is found than segments that lead nowhere. -/
theorem mem_of_mem_split_start {start segment : List Char} {segments front : List (List Char)}
    (suits : Suits start segments) (fewer : front <+: segments)
    (noSlash : ∀ segment ∈ front, '/' ∉ segment)
    (member : segment ∈ split (start ++ List.intercalate ['/'] front)) :
    isIdle segment = true ∨ segment ∈ front := by
  have behind {segment : List Char} {front : List (List Char)}
      (noSlash : ∀ segment ∈ front, '/' ∉ segment)
      (member : segment ∈ split (List.intercalate ['/'] front)) :
      isIdle segment = true ∨ segment ∈ front :=
    (mem_of_mem_split_intercalate noSlash member).imp_left fun empty => by rw [empty]; rfl
  rcases suits with rfl | ⟨rfl, slash⟩ | ⟨rfl, -⟩
  · rcases List.mem_cons.mp member with rfl | later
    · exact .inl rfl
    · exact behind noSlash later
  · cases front with
    | nil =>
        obtain rfl := List.mem_singleton.mp member
        exact .inl rfl
    | cons first rest =>
        obtain ⟨others, whole⟩ := fewer
        obtain rfl : first = [] := by
          rw [← whole] at slash
          exact Option.some.inj slash
        cases rest with
        | nil =>
            obtain rfl := List.mem_singleton.mp member
            exact .inl rfl
        | cons second further =>
            rcases List.mem_cons.mp member with rfl | later
            · exact .inl rfl
            · exact (behind (fun segment inside => noSlash segment (List.mem_cons_of_mem _ inside))
                later).imp_right (List.mem_cons_of_mem _)
  · exact behind noSlash member

theorem mem_split_of_lead {text segment : List Char} (member : segment ∈ split (lead text).2) :
    isIdle segment = true ∨ segment ∈ split text := by
  unfold lead at member
  split at member
  · exact .inr (List.mem_cons_of_mem _ member)
  · exact .inl (by rw [List.mem_singleton.mp member]; rfl)
  · rcases List.mem_cons.mp member with rfl | later
    · exact .inl rfl
    · exact .inr (List.mem_cons_of_mem _ later)
  · exact .inr member

theorem exists_front_of_mem_parentsOf {start text : List Char} {segments : List (List Char)}
    (member : text ∈ parentsOf start segments) :
    ∃ front, front.reverse <:+ segments ∧
      (text = [] ∨ text = start ++ List.intercalate ['/'] front) := by
  induction segments with
  | nil =>
      refine ⟨[], List.nil_suffix, .inl ?_⟩
      unfold parentsOf at member
      split at member
      · exact List.mem_singleton.mp member
      · cases member
  | cons segment rest hyp =>
      have further (inside : text ∈ parentsOf start rest) : ∃ front, front.reverse <:+ segment :: rest ∧
          (text = [] ∨ text = start ++ List.intercalate ['/'] front) := by
        obtain ⟨front, ends, spelled⟩ := hyp inside
        exact ⟨front, ends.trans (List.suffix_cons _ _), spelled⟩
      unfold parentsOf at member
      split at member
      · exact further member
      · rcases List.mem_cons.mp member with rfl | inside
        · refine ⟨(rest.dropWhile isIdle).reverse, ?_, .inr rfl⟩
          rw [List.reverse_reverse]
          exact (List.dropWhile_suffix _).trans (List.suffix_cons _ _)
        · exact further inside

/-- **The directories above a path have no other names than the path.** -/
theorem mem_segments_of_mem_parents {path above segment : String} (member : above ∈ parents path)
    (inside : segment ∈ segments above) :
    segment = "" ∨ segment = "." ∨ segment ∈ segments path := by
  obtain ⟨text, listed, rfl⟩ := List.mem_map.mp member
  obtain ⟨front, ends, spelled⟩ := exists_front_of_mem_parentsOf listed
  rw [mem_segments_iff, String.toList_ofList] at inside
  have fewer : front <+: split (lead path.toList).2 := List.reverse_suffix.mp ends
  have named : isIdle segment.toList = true ∨ segment.toList ∈ split path.toList := by
    rcases spelled with rfl | rfl
    · exact .inl (by rw [List.mem_singleton.mp inside]; rfl)
    · have noSlash : ∀ segment ∈ front, '/' ∉ segment :=
        fun segment member => noSlash_of_mem_split (fewer.subset member)
      rcases mem_of_mem_split_start (suits_lead path.toList) fewer noSlash inside with idle | found
      · exact .inl idle
      · exact mem_split_of_lead (fewer.subset found)
  rcases named with idle | found
  · simp only [isIdle, Bool.or_eq_true, List.isEmpty_iff, beq_iff_eq] at idle
    rcases idle with empty | dot
    · exact .inl (String.toList_eq_nil_iff.mp empty)
    · exact .inr (.inl (String.toList_inj.mp dot))
  · exact .inr (.inr (mem_segments_iff.mpr found))

/-! ### What is read -/

theorem idle_of_parentsOf_eq_nil {start : List Char} {segments : List (List Char)}
    (nothing : parentsOf start segments = []) : ∀ segment ∈ segments, isIdle segment = true := by
  induction segments with
  | nil => exact fun _ member => nomatch member
  | cons segment rest hyp =>
      by_cases idle : isIdle segment = true
      · rw [parentsOf, if_pos idle] at nothing
        exact List.forall_mem_cons.mpr ⟨idle, hyp nothing⟩
      · rw [parentsOf, if_neg idle] at nothing
        cases nothing

/-- What a path starts with leads nowhere. -/
theorem mem_split_lead {text segment : List Char} (member : segment ∈ split text) :
    isIdle segment = true ∨ segment ∈ split (lead text).2 := by
  unfold lead
  split
  · rcases List.mem_cons.mp member with rfl | later
    · exact .inl rfl
    · exact .inr later
  · obtain rfl := List.mem_singleton.mp member
    exact .inl rfl
  · rcases List.mem_cons.mp member with rfl | later
    · exact .inl rfl
    · exact .inr (List.mem_cons_of_mem _ later)
  · exact .inr member

/-- A path that nothing is above leads nowhere. -/
theorem idle_of_parent?_eq_none {path : String} (top : parent? path = none) :
    ∀ segment ∈ segments path, segment = "" ∨ segment = "." := by
  have nothing := List.map_eq_nil_iff.mp (parents_of_parent?_eq_none top)
  have idle : ∀ segment ∈ split path.toList, isIdle segment = true := by
    intro segment member
    rcases mem_split_lead member with idle | behind
    · exact idle
    · exact idle_of_parentsOf_eq_nil nothing segment (List.mem_reverse.mpr behind)
  intro segment member
  have leads := idle _ (mem_segments_iff.mp member)
  simp only [isIdle, Bool.or_eq_true, List.isEmpty_iff, beq_iff_eq] at leads
  rcases leads with empty | dot
  · exact .inl (String.toList_eq_nil_iff.mp empty)
  · exact .inr (String.toList_inj.mp dot)

end Provision.Path

namespace Provision.FileTree

/-- Segments that lead nowhere end where they start. -/
theorem resolveSegments_of_idle {tree : FileTree} {ending : Ending} {links : Nat} {directory : Route}
    {segments : List String} (idle : ∀ segment ∈ segments, segment = "" ∨ segment = ".") :
    tree.resolveSegments ending links directory segments = .ok (.existing directory .directory) := by
  induction segments with
  | nil => exact resolveSegments_nil
  | cons segment rest hyp =>
      obtain ⟨own, others⟩ := List.forall_mem_cons.mp idle
      rw [resolveSegments_idle own, hyp others]

/-- **Whatever can be read is in a directory.** -/
theorem exists_parent_of_read {tree : FileTree} {directory : Route} {path : String} {bytes : Bytes}
    (read : tree.read directory path = .ok bytes) : ∃ above, Path.parent? path = some above := by
  rw [← Option.isSome_iff_exists, ← Option.ne_none_iff_isSome]
  intro top
  have leads : tree.resolveSegments .target maximumLinks (start directory path) (Path.segments path) =
      .ok (.existing (start directory path) .directory) :=
    resolveSegments_of_idle (Path.idle_of_parent?_eq_none top)
  unfold FileTree.read resolve resolvePart at read
  rw [leads] at read
  split at read
  · cases read
  split at read
  · cases read
  split at read
  · cases read
  · cases read

end Provision.FileTree
