import SenderAudit.Proofs.Text
import SenderAudit.Text.Tags

/-!
Tags of a text. The tags before a semicolon and those after it do not depend on each other, the
last of those with one key counts, and blanks around keys and values do not.
-/
namespace SenderAudit.Text

theorem lastValue?_append_cons (key : String) (before after : List Tag) (tag : Tag) :
    lastValue? key (before ++ tag :: after) = (lastValue? key after).or
      (if tag.key = key.toList then some tag.value else lastValue? key before) := by
  have reversed : (before ++ tag :: after).reverse = after.reverse ++ tag :: before.reverse := by
    rw [List.reverse_append, List.reverse_cons, List.append_assoc, List.singleton_append]
  rw [lastValue?, reversed, List.find?_append, List.find?_cons, Option.map_or]
  by_cases same : tag.key = key.toList
  · rw [if_pos same, beq_iff_eq.mpr same]
    rfl
  · rw [if_neg same, beq_eq_false_iff_ne.mpr same]
    rfl

theorem tags_append (bareKeys : Bool) (s t : List Char) :
    tags bareKeys (s ++ ';' :: t) = tags bareKeys s ++ tags bareKeys t := by
  simp only [tags, fields]
  rw [splitWhere_append _ s t ';' rfl, List.map_append, List.filterMap_append]

/-- The characters of a text that are not blank. -/
def solids (s : List Char) : List Char :=
  s.filter (!isBlank ·)

theorem solids_append (s t : List Char) : solids (s ++ t) = solids s ++ solids t :=
  List.filter_append ..

theorem solids_trimStart (s : List Char) : solids (trimStart s) = solids s := by
  induction s with
  | nil => rfl
  | cons c rest ih =>
      by_cases blank : isBlank c = true
      · have dropped : trimStart (c :: rest) = trimStart rest := List.dropWhile_cons_of_pos blank
        rw [dropped, ih, solids, solids, List.filter_cons_of_neg (by simpa using blank)]
      · rw [trimStart, List.dropWhile_cons_of_neg blank]

theorem solids_trimEnd (s : List Char) : solids (trimEnd s) = solids s := by
  have back := solids_trimStart s.reverse
  rw [solids, solids, List.filter_reverse] at back
  rw [solids, trimEnd, dropTail, List.filter_reverse]
  exact (congrArg List.reverse back).trans (List.reverse_reverse _)

theorem solids_trim (s : List Char) : solids (trim s) = solids s := by
  rw [trim, solids_trimEnd, solids_trimStart]

/-- Spaces between the pieces of a text are blanks more. -/
theorem solids_spaced (pieces : List (List Char)) :
    solids ([' '].intercalate pieces) = solids pieces.flatten := by
  induction pieces with
  | nil => rfl
  | cons piece rest ih =>
      cases rest with
      | nil => simp [List.intercalate]
      | cons next more =>
          rw [List.intercalate_cons_cons, List.flatten_cons, solids_append, solids_append, ih,
            solids_append]
          simp [solids, show isBlank ' ' = true by decide]

theorem tags_part (name value : List Char) (whole : ';' ∉ name ++ '=' :: value)
    (key : '=' ∉ name) : ∃ shown, tags false (name ++ '=' :: value) =
      [⟨lower (trim name), shown⟩] ∧ solids shown = solids value := by
  have onePart : fields ';' (name ++ '=' :: value) = [name ++ '=' :: value] := by
    apply splitWhere_whole
    intro c member
    apply beq_eq_false_iff_ne.mpr
    rintro rfl
    exact whole member
  have trimmed := trim_append_cons name value '=' (by decide)
  have atFirst := cut_append '=' (trimStart name) (trimEnd value)
    (mt (List.dropWhile_sublist _).mem key)
  refine ⟨trim (trimEnd value), ?_, ?_⟩
  · rw [tags, onePart, List.map_singleton, trimmed, List.filterMap_cons, atFirst]
    simp only [trim_trimStart, List.filterMap_nil]
  · rw [solids_trim, solids_trimEnd]

end SenderAudit.Text
