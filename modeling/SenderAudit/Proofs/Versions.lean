import SenderAudit.Proofs.NetworkCase

/-!
Versions at the front of texts. A text is told to be a record by what it opens with: the version,
letters taken without case, and then a separator or nothing. If blanks are the separators, the
version is the first word, wherever blanks stand around the text.
-/
namespace SenderAudit.Text

/-- The version stands at the front, letters taken without case, and what comes next, if
anything, ends it. -/
def OpensWith (version : List Char) (ends : Char → Bool) (s : List Char) : Prop :=
  ∃ tag rest, s = tag ++ rest ∧ lower tag = version ∧ ∀ c, rest.head? = some c → ends c = true

theorem opensWith_iff_take (version : List Char) (low : lower version = version)
    (ends : Char → Bool) (s : List Char) : OpensWith version ends s ↔
      (sameLetters (s.take version.length) version &&
        (s.drop version.length).head?.all ends) = true := by
  rw [Bool.and_eq_true, Option.all_eq_true, sameLetters, beq_iff_eq, low]
  constructor
  · rintro ⟨tag, rest, rfl, same, next⟩
    have length : tag.length = version.length := by
      rw [← same, lower, List.length_map]
    rw [List.take_left' length, List.drop_left' length]
    exact ⟨same, next⟩
  · rintro ⟨same, next⟩
    exact ⟨_, _, (List.take_append_drop version.length s).symm, same, next⟩

/-- Nothing that ends the version stands in it, so it is what precedes the first such character. -/
theorem opensWith_iff_takeWhile (version : List Char) (ends : Char → Bool)
    (caseless : Caseless ends) (solid : ∀ c ∈ version, ends c = false) (s : List Char) :
    OpensWith version ends s ↔ lower (s.takeWhile (!ends ·)) = version := by
  constructor
  · rintro ⟨tag, rest, rfl, same, next⟩
    have whole : ∀ c ∈ tag, (!ends c) = true := by
      intro c member
      have inVersion : c.toLower ∈ version := same ▸ List.mem_map_of_mem member
      rw [← caseless c, solid _ inVersion]
      rfl
    have stops : rest.takeWhile (!ends ·) = [] := by
      cases rest with
      | nil => rfl
      | cons c later => exact List.takeWhile_cons_of_neg (by simp [next c rfl])
    rw [List.takeWhile_append_of_pos whole, stops, List.append_nil, same]
  · intro same
    refine ⟨_, _, List.takeWhile_append_dropWhile.symm, same, fun c isNext => ?_⟩
    have stops := List.head?_dropWhile_not (!ends ·) s
    rw [isNext] at stops
    simpa using stops

theorem splitWhere_head (p : Char → Bool) (s : List Char) :
    ∃ pieces, splitWhere p s = s.takeWhile (!p ·) :: pieces := by
  induction s with
  | nil => exact ⟨[], rfl⟩
  | cons c rest ih =>
      by_cases separates : p c = true
      · refine ⟨splitWhere p rest, ?_⟩
        rw [splitWhere, if_pos separates, List.takeWhile_cons_of_neg (by simp [separates])]
      · obtain ⟨pieces, split⟩ := ih
        refine ⟨pieces, ?_⟩
        rw [splitWhere, if_neg separates, split,
          List.takeWhile_cons_of_pos (by simpa using separates)]

theorem words_head (s : List Char) :
    (words s).headD [] = (trimStart s).takeWhile (!isBlank ·) := by
  induction s with
  | nil => rfl
  | cons c rest ih =>
      by_cases blank : isBlank c = true
      · have dropped : trimStart (c :: rest) = trimStart rest := List.dropWhile_cons_of_pos blank
        rw [dropped, ← ih, words, words, splitWhere, if_pos blank]
        rfl
      · obtain ⟨pieces, split⟩ := splitWhere_head isBlank (c :: rest)
        rw [trimStart, List.dropWhile_cons_of_neg blank, words, split,
          List.takeWhile_cons_of_pos (by simpa using blank)]
        rfl

theorem takeWhile_trimEnd (s : List Char) :
    (trimEnd s).takeWhile (!isBlank ·) = s.takeWhile (!isBlank ·) := by
  have split : s = trimEnd s ++ (s.reverse.takeWhile isBlank).reverse := by
    rw [trimEnd, dropTail, ← List.reverse_append, List.takeWhile_append_dropWhile,
      List.reverse_reverse]
  have blank : (s.reverse.takeWhile isBlank).reverse.takeWhile (!isBlank ·) = [] := by
    apply List.takeWhile_eq_nil_iff.mpr
    intro nonempty
    have first := List.mem_takeWhile_imp (List.mem_reverse.mp (List.get_mem _ ⟨0, nonempty⟩))
    rw [first]
    decide
  conv_rhs => rw [split, List.takeWhile_append, blank, List.append_nil]
  split
  · rename_i whole
    exact (List.takeWhile_prefix _).eq_of_length whole
  · rfl

/-- A trimmed text opens with a version that blanks end exactly if that is its first word. -/
theorem opensWith_trim (version : List Char) (solid : ∀ c ∈ version, isBlank c = false)
    (s : List Char) :
    OpensWith version isBlank (trim s) ↔ lower ((words s).headD []) = version := by
  rw [opensWith_iff_takeWhile version isBlank isBlank_caseless solid, trim, takeWhile_trimEnd,
    words_head]

end SenderAudit.Text
