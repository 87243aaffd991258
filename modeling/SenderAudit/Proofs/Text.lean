import Mathlib.Data.List.DropRight
import Mathlib.Data.List.TakeWhile
import SenderAudit.Text.Fields

/-!
Texts that cleaning leaves alone, and what the pieces of a text hold of it.
-/
namespace SenderAudit.Text

theorem dropTail_of_last (p : Char → Bool) (s : List Char)
    (last : ∀ c, s.getLast? = some c → p c = false) : dropTail p s = s := by
  have back : s.reverse.dropWhile p = s.reverse := by
    apply List.dropWhile_eq_self_iff.mpr
    intro nonempty
    apply Bool.eq_false_iff.mp
    apply last
    rw [← List.head?_reverse, List.head?_eq_getElem?, List.getElem?_eq_getElem nonempty]
  rw [dropTail, back, List.reverse_reverse]

theorem trim_eq_self (s : List Char) (solid : ∀ c ∈ s, isBlank c = false) : trim s = s := by
  have start : trimStart s = s := by
    apply List.dropWhile_eq_self_iff.mpr
    intro nonempty
    simp [solid _ (List.getElem_mem nonempty)]
  rw [trim, start]
  exact dropTail_of_last isBlank s fun c last => solid c (List.mem_of_getLast? last)

theorem lower_eq_self (s : List Char) (low : ∀ c ∈ s, c.toLower = c) : lower s = s := by
  rw [lower, List.map_congr_left low, List.map_id']

/-- What a table says of the characters of ASCII. -/
theorem of_table {P : Char → Prop} (table : ∀ n < 128, P (Char.ofNat n)) (c : Char)
    (small : c.toNat < 128) : P c := by
  have entry := table c.toNat small
  rwa [Char.ofNat_toNat] at entry

theorem small_of_isAlphanum (c : Char) (alphanum : c.isAlphanum = true) : c.toNat < 128 := by
  have bounded : ∀ atMost : UInt32, atMost.toNat < 128 → c.val ≤ atMost → c.toNat < 128 :=
    fun _ small below => Nat.lt_of_le_of_lt (UInt32.le_iff_toNat_le.mp below) small
  rcases Bool.or_eq_true_iff.mp alphanum with letter | digit
  · rcases Bool.or_eq_true_iff.mp letter with upper | lower
    · exact bounded 90 (by decide) (of_decide_eq_true upper).2
    · exact bounded 122 (by decide) (of_decide_eq_true (Bool.and_eq_true_iff.mp lower).2)
  · exact bounded 57 (by decide) (of_decide_eq_true (Bool.and_eq_true_iff.mp digit).2)

theorem dropWhile_append_cons (p : Char → Bool) (s t : List Char) (c : Char)
    (kept : p c = false) : (s ++ c :: t).dropWhile p = s.dropWhile p ++ c :: t := by
  induction s with
  | nil => exact List.dropWhile_cons_of_neg (Bool.eq_false_iff.mp kept)
  | cons head rest ih =>
      by_cases dropped : p head = true
      · rw [List.cons_append, List.dropWhile_cons_of_pos dropped, ih,
          List.dropWhile_cons_of_pos dropped]
      · rw [List.cons_append, List.dropWhile_cons_of_neg dropped,
          List.dropWhile_cons_of_neg dropped, List.cons_append]

theorem dropTail_append_cons (p : Char → Bool) (s t : List Char) (c : Char)
    (kept : p c = false) : dropTail p (s ++ c :: t) = s ++ c :: dropTail p t := by
  have reversed : (s ++ c :: t).reverse = t.reverse ++ c :: s.reverse := by
    rw [List.reverse_append, List.reverse_cons, List.append_assoc, List.singleton_append]
  rw [dropTail, reversed, dropWhile_append_cons p _ _ c kept, List.reverse_append,
    List.reverse_cons, List.reverse_reverse, List.append_assoc, List.singleton_append, dropTail]

/-- A character that is not blank parts the two ends of a text. -/
theorem trim_append_cons (s t : List Char) (c : Char) (solid : isBlank c = false) :
    trim (s ++ c :: t) = trimStart s ++ c :: trimEnd t := by
  rw [trim, trimStart, dropWhile_append_cons _ _ _ c solid, trimEnd,
    dropTail_append_cons _ _ _ c solid]
  rfl

theorem trim_trimStart (s : List Char) : trim (trimStart s) = trim s := by
  simp only [trim, trimStart, List.dropWhile_idempotent]

theorem trimEnd_trimEnd (s : List Char) : trimEnd (trimEnd s) = trimEnd s := by
  simp only [trimEnd, dropTail, List.reverse_reverse, List.dropWhile_idempotent]

theorem trimStart_trimEnd (s : List Char) : trimStart (trimEnd s) = trimEnd (trimStart s) := by
  have split : s.takeWhile isBlank ++ trimStart s = s := List.takeWhile_append_dropWhile
  cases kept : trimStart s with
  | nil =>
      have blank : ∀ c ∈ s, isBlank c = true := List.dropWhile_eq_nil_iff.mp kept
      have dropped : trimEnd s = [] := by
        rw [trimEnd, dropTail, List.dropWhile_eq_nil_iff.mpr fun c member =>
          blank c (List.mem_reverse.mp member)]
        rfl
      rw [dropped]
      rfl
  | cons c rest =>
      have solid : isBlank c = false := by
        have stops := List.head?_dropWhile_not isBlank s
        rw [trimStart] at kept
        rw [kept] at stops
        exact stops
      have blank : ∀ d ∈ s.takeWhile isBlank, isBlank d = true :=
        fun d member => List.mem_takeWhile_imp member
      rw [← split, kept, trimEnd, dropTail_append_cons _ _ _ c solid, trimStart,
        List.dropWhile_append_of_pos blank,
        List.dropWhile_cons_of_neg (Bool.eq_false_iff.mp solid)]
      exact (dropTail_append_cons isBlank [] rest c solid).symm

theorem trim_trimEnd (s : List Char) : trim (trimEnd s) = trim s := by
  rw [trim, trimStart_trimEnd, trimEnd_trimEnd, trim]

theorem trim_trim (s : List Char) : trim (trim s) = trim s :=
  (trim_trimEnd (trimStart s)).trans (trim_trimStart s)

theorem toLower_of_large (c : Char) (large : ¬ c.toNat < 128) : c.toLower = c := by
  delta Char.toLower
  rw [dif_neg]
  rintro ⟨_, atMost⟩
  rw [UInt32.le_iff_toNat_le] at atMost
  exact large (Nat.lt_of_le_of_lt atMost (by decide))

theorem toLower_toLower (c : Char) : c.toLower.toLower = c.toLower := by
  by_cases small : c.toNat < 128
  · exact of_table (P := fun c => c.toLower.toLower = c.toLower) (by decide) c small
  · rw [toLower_of_large c small, toLower_of_large c small]

theorem lower_lower (s : List Char) : lower (lower s) = lower s := by
  rw [lower, lower, List.map_map]
  exact List.map_congr_left fun c _ => toLower_toLower c

theorem lower_append (s t : List Char) : lower (s ++ t) = lower s ++ lower t :=
  List.map_append

theorem mem_of_mem_dropTail (p : Char → Bool) (s : List Char) (c : Char)
    (member : c ∈ dropTail p s) : c ∈ s := by
  have inReverse := (List.dropWhile_sublist p).mem (List.mem_reverse.mp member)
  exact List.mem_reverse.mp inReverse

theorem mem_of_mem_trim (s : List Char) (c : Char) (member : c ∈ trim s) : c ∈ s :=
  (List.dropWhile_sublist isBlank).mem (mem_of_mem_dropTail isBlank (trimStart s) c member)

theorem ne_of_absent (sep : Char) (s : List Char) (absent : sep ∉ s) :
    ∀ c ∈ s, (c != sep) = true := by
  intro c member
  apply bne_iff_ne.mpr
  rintro rfl
  exact absent member

theorem cut_append (sep : Char) (before after : List Char) (first : sep ∉ before) :
    cut sep (before ++ sep :: after) = some (before, after) := by
  have other := ne_of_absent sep before first
  rw [cut, List.dropWhile_append_of_pos other, List.takeWhile_append_of_pos other]
  simp

theorem cut_eq_none (sep : Char) (s : List Char) (absent : sep ∉ s) : cut sep s = none := by
  rw [cut, List.dropWhile_eq_nil_iff.mpr (ne_of_absent sep s absent)]

theorem cut_cases (sep : Char) (s : List Char) :
    (∃ before after, s = before ++ sep :: after ∧ sep ∉ before ∧
      cut sep s = some (before, after)) ∨ (sep ∉ s ∧ cut sep s = none) := by
  by_cases present : sep ∈ s
  · obtain ⟨before, after, split, first⟩ := List.eq_append_cons_of_mem present
    exact Or.inl ⟨before, after, split, first, split ▸ cut_append sep before after first⟩
  · exact Or.inr ⟨present, cut_eq_none sep s present⟩

theorem mem_splitWhere (p : Char → Bool) (s : List Char) (c : Char) (member : c ∈ s) :
    p c = true ∨ ∃ piece ∈ splitWhere p s, c ∈ piece := by
  induction s with
  | nil => cases member
  | cons head rest ih =>
      by_cases cuts : p head = true
      · rcases List.mem_cons.mp member with same | later
        · exact Or.inl (same ▸ cuts)
        · rcases ih later with separator | ⟨piece, found, inside⟩
          · exact Or.inl separator
          · exact Or.inr ⟨piece, by simp [splitWhere, cuts, found], inside⟩
      · obtain ⟨first, others, split, extended⟩ :=
          @splitWhere_cons_of_neg p head rest (Bool.eq_false_iff.mpr cuts)
        rw [extended]
        rcases List.mem_cons.mp member with same | later
        · exact Or.inr ⟨head :: first, by simp, by simp [same]⟩
        · rcases ih later with separator | ⟨piece, found, inside⟩
          · exact Or.inl separator
          · rw [split] at found
            rcases List.mem_cons.mp found with isFirst | isOther
            · exact Or.inr ⟨head :: first, by simp, by simp [← isFirst, inside]⟩
            · exact Or.inr ⟨piece, by simp [isOther], inside⟩

theorem splitWhere_append (p : Char → Bool) (s t : List Char) (c : Char) (cuts : p c = true) :
    splitWhere p (s ++ c :: t) = splitWhere p s ++ splitWhere p t := by
  induction s with
  | nil => simp [splitWhere, cuts]
  | cons head rest ih =>
      by_cases separator : p head = true
      · simp [splitWhere, separator, ih]
      · obtain ⟨first, others, split, extended⟩ :=
          @splitWhere_cons_of_neg p head rest (Bool.eq_false_iff.mpr separator)
        rw [extended, List.cons_append, splitWhere, ih, split]
        simp [separator]

theorem splitWhere_concat (p : Char → Bool) (s : List Char) (c : Char) (cuts : p c = true) :
    splitWhere p (s ++ [c]) = splitWhere p s ++ [[]] :=
  splitWhere_append p s [] c cuts

theorem splitWhere_whole (p : Char → Bool) (s : List Char) (whole : ∀ c ∈ s, p c = false) :
    splitWhere p s = [s] := by
  induction s with
  | nil => rfl
  | cons head rest ih =>
      obtain ⟨first, others, split, extended⟩ :=
        @splitWhere_cons_of_neg p head rest (whole head List.mem_cons_self)
      rw [ih fun c member => whole c (List.mem_cons_of_mem head member)] at split
      cases split
      exact extended

theorem solid_of_mem_splitWhere (p : Char → Bool) (s piece : List Char)
    (found : piece ∈ splitWhere p s) : ∀ c ∈ piece, p c = false := by
  induction s generalizing piece with
  | nil =>
      rw [List.mem_singleton.mp found]
      intro c member
      cases member
  | cons head rest ih =>
      by_cases cuts : p head = true
      · rw [splitWhere, if_pos cuts] at found
        rcases List.mem_cons.mp found with rfl | later
        · intro c member
          cases member
        · exact ih piece later
      · obtain ⟨first, others, split, extended⟩ :=
          @splitWhere_cons_of_neg p head rest (Bool.eq_false_iff.mpr cuts)
        rw [split] at ih
        rw [extended] at found
        rcases List.mem_cons.mp found with rfl | later
        · intro c member
          rcases List.mem_cons.mp member with rfl | inside
          · exact Bool.eq_false_iff.mpr cuts
          · exact ih first List.mem_cons_self c inside
        · exact ih piece (List.mem_cons_of_mem first later)

theorem solid_of_mem_words (s word : List Char) (found : word ∈ words s) :
    ∀ c ∈ word, isBlank c = false :=
  solid_of_mem_splitWhere isBlank s word (List.mem_of_mem_filter found)

/-! Words and the blanks around them. -/

theorem words_blanks (gap s : List Char) (blank : ∀ c ∈ gap, isBlank c = true) :
    words (gap ++ s) = words s := by
  induction gap with
  | nil => rfl
  | cons c rest ih =>
      obtain ⟨first, others⟩ := List.forall_mem_cons.mp blank
      rw [List.cons_append, ← ih others, words, splitWhere, if_pos first]
      rfl

theorem words_whole (word : List Char) (nonempty : word ≠ [])
    (solid : ∀ c ∈ word, isBlank c = false) : words word = [word] := by
  rw [words, splitWhere_whole isBlank word solid]
  simp [nonempty]

/-- A blank after a word ends it. -/
theorem words_append (word s : List Char) (c : Char) (nonempty : word ≠ [])
    (solid : ∀ c ∈ word, isBlank c = false) (blank : isBlank c = true) :
    words (word ++ c :: s) = word :: words s := by
  have whole := words_whole word nonempty solid
  rw [words] at whole
  rw [words, splitWhere_append isBlank word s c blank, List.filter_append, whole]
  rfl

theorem words_append_blanks (word gap s : List Char) (nonempty : word ≠ [])
    (solid : ∀ c ∈ word, isBlank c = false) (apart : gap ≠ [])
    (blank : ∀ c ∈ gap, isBlank c = true) : words (word ++ (gap ++ s)) = word :: words s := by
  obtain ⟨c, rest, rfl⟩ := List.exists_cons_of_ne_nil apart
  obtain ⟨first, others⟩ := List.forall_mem_cons.mp blank
  rw [List.cons_append, words_append word (rest ++ s) c nonempty solid first,
    words_blanks rest s others]

theorem words_trailing (word gap : List Char) (nonempty : word ≠ [])
    (solid : ∀ c ∈ word, isBlank c = false) (blank : ∀ c ∈ gap, isBlank c = true) :
    words (word ++ gap) = [word] := by
  rcases gap with _ | ⟨c, rest⟩
  · rw [List.append_nil, words_whole word nonempty solid]
  · have split := words_append_blanks word (c :: rest) [] nonempty solid (by simp) blank
    rwa [List.append_nil] at split

theorem dropTail_last (p : Char → Bool) (s : List Char) :
    ∀ c, (dropTail p s).getLast? = some c → p c = false := by
  intro c last
  have stops := List.head?_dropWhile_not p s.reverse
  rw [dropTail, List.getLast?_reverse] at last
  rw [last] at stops
  exact stops

theorem dropTail_append (p : Char → Bool) (s t : List Char) (tail : ∀ c ∈ t, p c = true) :
    dropTail p (s ++ t) = dropTail p s := by
  rw [dropTail, List.reverse_append,
    List.dropWhile_append_of_pos fun c member => tail c (List.mem_reverse.mp member), dropTail]

end SenderAudit.Text
