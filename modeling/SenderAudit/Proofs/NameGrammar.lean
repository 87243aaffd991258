import SenderAudit.Proofs.ChildName
import SenderAudit.Proofs.Utf8

/-!
The grammar of names. A text in ASCII is read as a name exactly if its cleaned lower case has the
form of names, and then it is that name. Labels may be put before a name one after another or at
once, with one result.
-/
namespace SenderAudit.DomainName

def alphabet : List Char := "abcdefghijklmnopqrstuvwxyz0123456789-_".toList

/-- The form of names: labels of the alphabet, with no hyphen at an end. -/
structure IsWellFormed (text : String) : Prop where
  length : 1 ≤ text.length ∧ text.length ≤ 253
  labelLength : ∀ label ∈ Text.fields '.' text.toList, 1 ≤ label.length ∧ label.length ≤ 63
  hyphens : ∀ label ∈ Text.fields '.' text.toList,
    label.head? ≠ some '-' ∧ label.getLast? ≠ some '-'
  letters : ∀ label ∈ Text.fields '.' text.toList, ∀ c ∈ label, c ∈ alphabet

theorem isLabelChar_alphabet (c : Char) (isChar : isLabelChar c = true) : c ∈ alphabet :=
  Text.of_table (P := fun c => isLabelChar c = true → c ∈ alphabet) (by decide +kernel) c
    (isLabelChar_small c isChar) isChar

theorem isWellFormed (name : DomainName) : IsWellFormed name.text := by
  have labels := name.canonical.2
  constructor
  case length =>
    rw [← String.length_toList]
    exact ⟨List.length_pos_of_ne_nil (canonical_ne_nil _ name.canonical), name.canonical.1⟩
  case labelLength =>
    intro label found
    exact ⟨List.length_pos_of_ne_nil (labels label found).1, (labels label found).2.1⟩
  case hyphens =>
    intro label found
    exact ⟨(labels label found).2.2.1, (labels label found).2.2.2.1⟩
  case letters =>
    intro label found c inside
    exact isLabelChar_alphabet c ((labels label found).2.2.2.2 c inside)

theorem parse_ok_iff (input : String) (name : DomainName) :
    parse input = .ok name ↔ core input ≠ [] ∧ ascii? (core input) = some name.text.toList := by
  unfold parse
  by_cases empty : core input = []
  · simp [empty]
  · rw [if_neg empty]
    cases converted : ascii? (core input) with
    | none => simp
    | some ascii => simpa [empty, eq_comm] using ofCanonical_ok ascii name

theorem alphabet_isLabelChar : ∀ c ∈ alphabet, isLabelChar c = true :=
  List.all_eq_true.mp (by decide +kernel)

structure IsWrittenLabel (label : List Char) : Prop where
  length : 1 ≤ label.length ∧ label.length ≤ 63
  letters : ∀ c ∈ label, c ∈ alphabet
  hyphens : label.head? ≠ some '-' ∧ label.getLast? ≠ some '-'

theorem isWrittenLabel_iff (label : List Char) : IsWrittenLabel label ↔ IsLabel label := by
  constructor
  · rintro ⟨⟨nonempty, short⟩, letters, noHead, noLast⟩
    exact ⟨List.ne_nil_of_length_pos nonempty, short, noHead, noLast,
      fun c inside => alphabet_isLabelChar c (letters c inside)⟩
  · rintro ⟨nonempty, short, noHead, noLast, chars⟩
    exact ⟨⟨List.length_pos_of_ne_nil nonempty, short⟩,
      fun c inside => isLabelChar_alphabet c (chars c inside), noHead, noLast⟩

instance (label : List Char) : Decidable (IsWrittenLabel label) :=
  decidable_of_iff (labelFault? label = none)
    (labelFault?_eq_none_iff.trans (isWrittenLabel_iff label).symm)

theorem octets_of_labels (text : String)
    (labels : ∀ label ∈ Text.fields '.' text.toList, IsLabel label) :
    text.utf8ByteSize = text.length := by
  rw [← Utf8.length_toList, ← String.length_toList]
  apply Utf8.length_of_small
  intro c member
  rcases Text.mem_splitWhere (· == '.') _ c member with dot | ⟨label, found, inside⟩
  · rw [beq_iff_eq.mp dot]
    decide
  · exact isLabelChar_small c ((labels label found).2.2.2.2 c inside)

theorem canonical_iff (text : String) :
    IsCanonical text.toList ↔ (1 ≤ text.utf8ByteSize ∧ text.utf8ByteSize ≤ 253) ∧
      ∀ label ∈ Text.fields '.' text.toList, IsWrittenLabel label := by
  simp only [isWrittenLabel_iff]
  constructor
  · intro form
    have nonempty := List.length_pos_of_ne_nil (canonical_ne_nil _ form)
    rw [octets_of_labels text form.2, ← String.length_toList]
    exact ⟨⟨nonempty, form.1⟩, form.2⟩
  · rintro ⟨⟨_, short⟩, labels⟩
    rw [octets_of_labels text labels, ← String.length_toList] at short
    exact ⟨short, labels⟩

theorem parse_ascii (input text : String) (ascii : Idna.allAscii input.toList = true) :
    (∃ name, parse input = .ok name ∧ name.text = text) ↔
      text.toList = Text.lower (core input) ∧ IsCanonical text.toList := by
  have read : ascii? (core input) = some (Text.lower (core input)) :=
    if_pos (core_ascii input ascii)
  constructor
  · rintro ⟨name, parsed, rfl⟩
    obtain ⟨_, isName⟩ := (parse_ok_iff input name).mp parsed
    rw [read, Option.some_inj] at isName
    exact ⟨isName.symm, name.canonical⟩
  · rintro ⟨isLower, form⟩
    have nonempty : core input ≠ [] := by
      intro empty
      rw [empty] at isLower
      exact canonical_ne_nil _ form isLower
    exact ⟨⟨text, form⟩, (parse_ok_iff input _).mpr ⟨nonempty, isLower ▸ read⟩, rfl⟩

/-- What may be put before a name: a text in ASCII without blanks that does not end in a dot. -/
structure IsPart (part : String) : Prop where
  nonempty : part.toList ≠ []
  ascii : Idna.allAscii part.toList = true
  solid : part.toList.any Text.isBlank = false
  closed : part.toList.getLast? ≠ some '.'

theorem IsPart.dotted {a b : String} (first : IsPart b) (second : IsPart a) :
    IsPart (b ++ "." ++ a) := by
  have spelled : (b ++ "." ++ a).toList = b.toList ++ '.' :: a.toList := by
    simp [String.toList_append]
  obtain ⟨c, rest, isPart⟩ := List.exists_cons_of_ne_nil second.nonempty
  constructor <;> rw [spelled]
  case nonempty => simp
  case ascii =>
    rw [Idna.allAscii, List.all_append, List.all_cons, Bool.and_eq_true, Bool.and_eq_true]
    exact ⟨first.ascii, by decide, second.ascii⟩
  case solid =>
    rw [List.any_append, List.any_cons, first.solid, second.solid]
    decide
  case closed =>
    have last := second.closed
    rw [isPart] at last ⊢
    rwa [List.getLast?_append, List.getLast?_cons_cons, List.getLast?_cons, Option.some_or,
      ← List.getLast?_cons]

theorem IsPart.child_ok {part : String} (isPart : IsPart part) (name child : DomainName) :
    name.child part = .ok child ↔
      child.text = Text.lowered part ++ "." ++ name.text := by
  rw [DomainName.child_ok name part isPart.solid isPart.ascii isPart.closed, ← String.toList_inj]
  simp [String.toList_append, Text.lowered]

/-- Under a name that is read as it stands, each name on the way is one. -/
theorem exists_child_of_under (name : DomainName) (a b : String) (made : DomainName)
    (isMade : made.text = Text.lowered b ++ "." ++ Text.lowered a ++ "." ++ name.text) :
    ∃ child : DomainName, child.text = Text.lowered a ++ "." ++ name.text := by
  have spelled : made.text.toList =
      Text.lower b.toList ++ '.' :: (Text.lower a.toList ++ '.' :: name.text.toList) := by
    simp [isMade, String.toList_append, Text.lowered]
  have form := made.canonical
  rw [spelled, IsCanonical, List.length_append, List.length_cons] at form
  have inner : IsCanonical (Text.lower a.toList ++ '.' :: name.text.toList) := by
    refine ⟨by omega, fun label found => form.2 label ?_⟩
    rw [Text.fields, Text.splitWhere_append _ _ _ '.' rfl]
    exact List.mem_append_right _ found
  refine ⟨⟨Text.lowered a ++ "." ++ name.text, ?_⟩, rfl⟩
  simpa [String.toList_append, Text.lowered] using inner

/-- A text in ASCII is read as a name exactly if what is left of it, less blanks around it and
then one final dot, has the form of a name in lower case; it is that name. Putting one part before
a name and another before that makes a name exactly if putting both at once does, and the same. -/
theorem parse_and_child_grammar :
    (∀ input text : String, Idna.allAscii input.toList = true →
      ((∃ name, parse input = .ok name ∧ name.text = text) ↔
        text.toList = Text.lower (dropFinalDot (Text.trim input.toList)) ∧
        (1 ≤ text.utf8ByteSize ∧ text.utf8ByteSize ≤ 253) ∧
        ∀ label ∈ Text.fields '.' text.toList, IsWrittenLabel label)) ∧
    ∀ (name : DomainName) (a b : String), IsPart a → IsPart b → ∀ made : DomainName,
      ((∃ child, name.child a = .ok child ∧ child.child b = .ok made) ↔
        name.child (b ++ "." ++ a) = .ok made) ∧
      (name.child (b ++ "." ++ a) = .ok made →
        made.text = Text.lowered b ++ "." ++ Text.lowered a ++ "." ++ name.text) := by
  constructor
  · intro input text ascii
    rw [parse_ascii input text ascii, canonical_iff]
    rfl
  · intro name a b inner outer made
    have joined : Text.lowered (b ++ "." ++ a) = Text.lowered b ++ "." ++ Text.lowered a := by
      simp [← String.toList_inj, Text.lowered, Text.lower, String.toList_append]
    rw [(outer.dotted inner).child_ok name made, joined]
    refine ⟨?_, id⟩
    constructor
    · rintro ⟨child, isChild, isMade⟩
      rw [inner.child_ok] at isChild
      rw [outer.child_ok, isChild] at isMade
      simpa [String.append_assoc] using isMade
    · intro isMade
      obtain ⟨child, isChild⟩ := name.exists_child_of_under a b made isMade
      refine ⟨child, (inner.child_ok name child).mpr isChild, (outer.child_ok child made).mpr ?_⟩
      rw [isChild, isMade]
      simp [String.append_assoc]

theorem keyName_grammar :
    Idna.allAscii "\t Example.ORG.\n".toList = true ∧ IsPart "_DomainKey" ∧ IsPart "S1" ∧
      ∃ name child made : DomainName,
        parse "\t Example.ORG.\n" = .ok name ∧ name.text = "example.org" ∧
        name.child "_DomainKey" = .ok child ∧ child.child "S1" = .ok made ∧
        name.child "S1._DomainKey" = .ok made ∧ made.text = "s1._domainkey.example.org" := by
  have ascii : Idna.allAscii "\t Example.ORG.\n".toList = true := by decide +kernel
  have inner : IsPart "_DomainKey" :=
    ⟨by decide +kernel, by decide +kernel, by decide +kernel, by decide +kernel⟩
  have outer : IsPart "S1" :=
    ⟨by decide +kernel, by decide +kernel, by decide +kernel, by decide +kernel⟩
  obtain ⟨reads, composes⟩ := parse_and_child_grammar
  obtain ⟨name, isName, text⟩ := (reads "\t Example.ORG.\n" "example.org" ascii).mpr
    ⟨by decide +kernel, by decide +kernel, by decide +kernel⟩
  have canonical : IsCanonical ("s1._domainkey.example.org").toList :=
    fault?_eq_none_iff.mp (by decide +kernel)
  have lowered : Text.lowered "S1._DomainKey" ++ "." ++ "example.org" =
      "s1._domainkey.example.org" := by decide +kernel
  have isMade : name.child "S1._DomainKey" = .ok ⟨_, canonical⟩ :=
    ((outer.dotted inner).child_ok name _).mpr (text ▸ lowered.symm)
  obtain ⟨inOrder, spelled⟩ := composes name "_DomainKey" "S1" inner outer ⟨_, canonical⟩
  obtain ⟨child, isChild, isNext⟩ := inOrder.mpr isMade
  exact ⟨ascii, inner, outer, name, child, _, isName, text, isChild, isNext, isMade,
    (spelled isMade).trans (by rw [text]; decide +kernel)⟩

end SenderAudit.DomainName
