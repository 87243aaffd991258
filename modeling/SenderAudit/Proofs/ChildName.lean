import SenderAudit.Proofs.CanonicalName

/-!
Names under a name. A label without blanks or a final dot, in ASCII, is put in lower case
before the name and a dot; whether that is a name depends on the whole length and on the parts
of the label.
-/
namespace SenderAudit.DomainName

theorem last_of_under (s : List Char) (name : DomainName) :
    (s ++ '.' :: name.text.toList).getLast? = name.text.toList.getLast? := by
  obtain ⟨c, rest, isName⟩ := List.exists_cons_of_ne_nil (canonical_ne_nil _ name.canonical)
  rw [isName, List.getLast?_append, List.getLast?_cons_cons, List.getLast?_cons]
  rfl

section Child

variable (name : DomainName) (label : String)
  (solid : label.toList.any Text.isBlank = false)
  (ascii : Idna.allAscii label.toList = true) (closed : label.toList.getLast? ≠ some '.')

include solid closed in
theorem core_childText :
    core (name.childText label) = label.toList ++ '.' :: name.text.toList := by
  have kept : Text.dropTail (· == '.') label.toList = label.toList := by
    apply Text.dropTail_of_last
    intro c last
    apply beq_eq_false_iff_ne.mpr
    rintro rfl
    exact closed last
  have noBlank : ∀ c ∈ label.toList ++ '.' :: name.text.toList, Text.isBlank c = false := by
    intro c member
    rcases List.mem_append.mp member with inLabel | inName
    · exact Bool.eq_false_iff.mpr (List.any_eq_false.mp solid c inLabel)
    · rcases List.mem_cons.mp inName with rfl | inName
      · decide
      · exact (isNameChar_plain c (canonical_chars _ name.canonical c inName)).1
  have last : (label.toList ++ '.' :: name.text.toList).getLast? ≠ some '.' := by
    rw [last_of_under]
    exact canonical_last _ name.canonical
  rw [core, childText, String.toList_ofList, kept, Text.trim_eq_self _ noBlank,
    dropFinalDot_of_last _ last]

include solid ascii closed in
theorem child_ok (child : DomainName) :
    name.child label = .ok child ↔
      child.text.toList = Text.lower label.toList ++ '.' :: name.text.toList := by
  have allAscii : Idna.allAscii (label.toList ++ '.' :: name.text.toList) = true := by
    rw [Idna.allAscii, List.all_append, List.all_cons]
    exact Bool.and_eq_true_iff.mpr ⟨ascii, canonical_ascii name⟩
  have dotted : Text.lower ('.' :: name.text.toList) = '.' :: name.text.toList :=
    congrArg ('.' :: ·) (canonical_lower name)
  rw [DomainName.child, parse, core_childText name label solid closed]
  simp only [List.append_eq_nil_iff, reduceCtorEq, and_false, ↓reduceIte, ascii?, allAscii]
  rw [Text.lower_append, dotted]
  exact ofCanonical_ok _ child

end Child

theorem canonical_under (s : List Char) (name : DomainName) :
    IsCanonical (s ++ '.' :: name.text.toList) ↔
      s.length + 1 + name.text.length ≤ maxLength ∧ ∀ label ∈ Text.fields '.' s, IsLabel label := by
  have parts : Text.fields '.' (s ++ '.' :: name.text.toList) =
      Text.fields '.' s ++ Text.fields '.' name.text.toList :=
    Text.splitWhere_append _ s _ '.' rfl
  have length : (s ++ '.' :: name.text.toList).length = s.length + 1 + name.text.length := by
    rw [List.length_append, List.length_cons, String.length_toList]
    omega
  rw [IsCanonical, parts, length, List.forall_mem_append]
  constructor
  · rintro ⟨short, labels, _⟩
    exact ⟨short, labels⟩
  · rintro ⟨short, labels⟩
    exact ⟨short, labels, name.canonical.2⟩

theorem exists_ok_iff {ε : Type} {made : Except ε DomainName} {s : List Char}
    (reads : ∀ name, made = .ok name ↔ name.text.toList = s) :
    (∃ name, made = .ok name) ↔ IsCanonical s := by
  constructor
  · rintro ⟨name, found⟩
    rw [← (reads name).mp found]
    exact name.canonical
  · intro form
    have canonical : IsCanonical (String.ofList s).toList := by rwa [String.toList_ofList]
    exact ⟨⟨String.ofList s, canonical⟩, (reads _).mpr String.toList_ofList⟩

end SenderAudit.DomainName

namespace SenderAudit.LookupFailure

/-- A child's name is looked for under a name that is read as it stands. -/
theorem parseChild_ok (label : String) (name child : DomainName) :
    parseChild label name.text = .ok child ↔ name.child label = .ok child := by
  rw [parseChild, parseName_text]
  simp only [bind, Except.bind]
  cases name.child label <;> simp [Except.mapError]

theorem parseChild_iff (label domain : String) (child : DomainName) :
    parseChild label domain = .ok child ↔
      ∃ name, DomainName.parse domain = .ok name ∧ parseChild label name.text = .ok child := by
  simp only [parseChild_ok]
  rw [parseChild, parseName]
  simp only [bind, Except.bind]
  cases DomainName.parse domain with
  | error fault => simp [Except.mapError]
  | ok name => cases own : name.child label <;> simp [Except.mapError, own]

end SenderAudit.LookupFailure
