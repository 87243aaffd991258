import SenderAudit.Lookup.Failure
import SenderAudit.Proofs.Text

/-!
Names in canonical form are read as they stand, and a text in ASCII that denotes a name
is spelled as that name once it is cleaned.
-/
namespace SenderAudit.DomainName

theorem isLabelChar_small (c : Char) (h : isLabelChar c = true) : c.toNat < 128 := by
  simp only [isLabelChar, Bool.or_eq_true, beq_iff_eq] at h
  rcases h with ((letter | digit) | rfl) | rfl
  · have alpha : c.isAlpha = true := Bool.or_eq_true_iff.mpr (.inr letter)
    exact Text.small_of_isAlphanum c (Bool.or_eq_true_iff.mpr (.inl alpha))
  · exact Text.small_of_isAlphanum c (Bool.or_eq_true_iff.mpr (.inr digit))
  all_goals decide

def isNameChar (c : Char) : Bool :=
  c == '.' || isLabelChar c

theorem isNameChar_plain (c : Char) (h : isNameChar c = true) :
    Text.isBlank c = false ∧ c.toLower = c ∧ Idna.isAscii c = true := by
  have small : c.toNat < 128 := by
    rcases Bool.or_eq_true_iff.mp h with dot | label
    · rw [beq_iff_eq.mp dot]; decide
    · exact isLabelChar_small c label
  exact Text.of_table (P := fun c => isNameChar c = true →
    Text.isBlank c = false ∧ c.toLower = c ∧ Idna.isAscii c = true) (by decide) c small h

theorem canonical_chars (s : List Char) (form : IsCanonical s) :
    ∀ c ∈ s, isNameChar c = true := by
  intro c member
  rcases Text.mem_splitWhere (· == '.') s c member with dot | ⟨label, found, inside⟩
  · exact Bool.or_eq_true_iff.mpr (Or.inl dot)
  · have isLabel := form.2 label found
    exact Bool.or_eq_true_iff.mpr (Or.inr (isLabel.2.2.2.2 c inside))

theorem canonical_ne_nil (s : List Char) (form : IsCanonical s) : s ≠ [] := by
  rintro rfl
  exact (form.2 [] (by simp [Text.fields, Text.splitWhere])).1 rfl

-- A final dot would leave an empty label behind it.
theorem canonical_last (s : List Char) (form : IsCanonical s) : s.getLast? ≠ some '.' := by
  intro final
  obtain ⟨start, rfl⟩ := List.getLast?_eq_some_iff.mp final
  have empty : [] ∈ Text.fields '.' (start ++ ['.']) := by
    simp [Text.fields, Text.splitWhere_concat]
  exact absurd rfl (form.2 [] empty).1

theorem dropFinalDot_of_last (s : List Char) (last : s.getLast? ≠ some '.') :
    dropFinalDot s = s := by
  rw [dropFinalDot, if_neg last]

theorem canonical_core (name : DomainName) : core name.text = name.text.toList := by
  have solid : ∀ c ∈ name.text.toList, Text.isBlank c = false := fun c member =>
    (isNameChar_plain c (canonical_chars _ name.canonical c member)).1
  rw [core, Text.trim_eq_self _ solid,
    dropFinalDot_of_last _ (canonical_last _ name.canonical)]

theorem canonical_lower (name : DomainName) : Text.lower name.text.toList = name.text.toList :=
  Text.lower_eq_self _ fun c member =>
    (isNameChar_plain c (canonical_chars _ name.canonical c member)).2.1

theorem canonical_ascii (name : DomainName) : Idna.allAscii name.text.toList = true :=
  List.all_eq_true.mpr fun c member =>
    (isNameChar_plain c (canonical_chars _ name.canonical c member)).2.2

theorem spelling_text (name : DomainName) : spelling name.text = name.text := by
  rw [spelling, canonical_core, canonical_lower, String.ofList_toList]

theorem ofCanonical_text (s : List Char) (name : DomainName) (h : ofCanonical s = .ok name) :
    name.text = String.ofList s := by
  unfold ofCanonical at h
  split at h
  · cases h
  · cases h; rfl

theorem ofCanonical_toList (name : DomainName) :
    ofCanonical name.text.toList = .ok name := by
  have sound : fault? name.text.toList = none := fault?_eq_none_iff.mpr name.canonical
  unfold ofCanonical
  split
  · rename_i fault found
    rw [sound] at found
    cases found
  · simp

/-- A text in canonical form is that of one name, and any other text that of none. -/
theorem ofCanonical_ok (s : List Char) (name : DomainName) :
    ofCanonical s = .ok name ↔ name.text.toList = s := by
  constructor
  · intro read
    rw [ofCanonical_text s name read, String.toList_ofList]
  · rintro rfl
    exact ofCanonical_toList name

theorem text_injective : Function.Injective text := by
  intro first second same
  cases first
  cases second
  cases same
  rfl

theorem parse_text (name : DomainName) : parse name.text = .ok name := by
  have nonempty := canonical_ne_nil _ name.canonical
  simp only [parse, canonical_core, nonempty, ↓reduceIte, ascii?, canonical_ascii,
    canonical_lower]
  exact ofCanonical_toList name

theorem core_ascii (input : String) (ascii : Idna.allAscii input.toList = true) :
    Idna.allAscii (core input) = true := by
  apply List.all_eq_true.mpr
  intro c member
  apply List.all_eq_true.mp ascii
  have inTrim : c ∈ Text.trim input.toList := by
    unfold core dropFinalDot at member
    split at member
    · exact (List.dropLast_sublist _).mem member
    · exact member
  exact Text.mem_of_mem_trim _ c inTrim

/-- Text in ASCII that denotes a name is spelled as it, letter case and a final dot apart. -/
theorem spelling_of_ascii (input : String) (name : DomainName)
    (ascii : Idna.allAscii input.toList = true) (parsed : parse input = .ok name) :
    spelling input = name.text := by
  unfold parse at parsed
  simp only [ascii?, core_ascii input ascii, ↓reduceIte] at parsed
  split at parsed
  · cases parsed
  · exact (ofCanonical_text _ name parsed).symm

end SenderAudit.DomainName

namespace SenderAudit.LookupFailure

theorem parseName_text (name : DomainName) : parseName name.text = .ok name := by
  rw [parseName, DomainName.parse_text]
  rfl

theorem parseName_ok (input : String) (name : DomainName) :
    parseName input = .ok name ↔ DomainName.parse input = .ok name := by
  unfold parseName
  cases DomainName.parse input <;> simp [Except.mapError]

end SenderAudit.LookupFailure
