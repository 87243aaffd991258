import SenderAudit.Dkim.Probe
import SenderAudit.Dmarc.Check
import SenderAudit.Proofs.ChildName

/-!
The names at which the keys and the policy of a domain are looked for. A selector has one if
it is a label under which the domain's name still fits; the policy has one if the name fits.
-/
namespace SenderAudit

namespace Dkim

def IsSelectorChar (c : Char) : Prop :=
  c.isAlphanum = true ∨ c = '-' ∨ c = '_'

instance (c : Char) : Decidable (IsSelectorChar c) :=
  inferInstanceAs (Decidable (_ ∨ _ ∨ _))

theorem selectorChar_small (c : Char) (isChar : IsSelectorChar c) : c.toNat < 128 := by
  rcases isChar with alphanumeric | rfl | rfl
  · exact Text.small_of_isAlphanum c alphanumeric
  all_goals decide

namespace IsSelectorChar

variable {c : Char}

theorem of_table {P : Char → Prop}
    (table : ∀ n < 128, IsSelectorChar (Char.ofNat n) → P (Char.ofNat n))
    (isChar : IsSelectorChar c) : P c :=
  Text.of_table (P := fun c => IsSelectorChar c → P c) table c (selectorChar_small c isChar) isChar

theorem solid (isChar : IsSelectorChar c) : Text.isBlank c = false :=
  of_table (P := fun c => Text.isBlank c = false) (by decide) isChar

theorem ascii (isChar : IsSelectorChar c) : Idna.isAscii c = true :=
  of_table (P := fun c => Idna.isAscii c = true) (by decide) isChar

theorem lower_not_dot (isChar : IsSelectorChar c) : (c.toLower == '.') = false :=
  of_table (P := fun c => (c.toLower == '.') = false) (by decide) isChar

theorem lower_isLabelChar (isChar : IsSelectorChar c) :
    DomainName.isLabelChar c.toLower = true :=
  of_table (P := fun c => DomainName.isLabelChar c.toLower = true) (by decide) isChar

theorem lower_hyphen_iff (isChar : IsSelectorChar c) : c.toLower = '-' ↔ c = '-' :=
  of_table (P := fun c => c.toLower = '-' ↔ c = '-') (by decide) isChar

end IsSelectorChar

theorem isSelector_iff (s : List Char) :
    isSelector s = true ↔ 1 ≤ s.length ∧ s.length ≤ 63 ∧ ∀ c ∈ s, IsSelectorChar c := by
  simp [isSelector, IsSelectorChar, Nat.one_le_iff_ne_zero, and_assoc, or_assoc]

def keyLabel : List Char := "._domainkey".toList

section KeyName

variable (name : DomainName) (s : List Char) (chars : ∀ c ∈ s, IsSelectorChar c)

include chars

theorem lower_isLabel (nonempty : 1 ≤ s.length) (short : s.length ≤ 63) :
    DomainName.IsLabel (Text.lower s) ↔ s.head? ≠ some '-' ∧ s.getLast? ≠ some '-' := by
  have hyphen : ∀ found : Option Char, (∀ c ∈ found, c ∈ s) →
      (found.map Char.toLower = some '-' ↔ found = some '-') := by
    rintro (_ | c) inside
    · simp
    · have isChar := chars c (inside c rfl)
      simpa using isChar.lower_hyphen_iff
  have head := hyphen s.head? fun c first => List.mem_of_head? first
  have last := hyphen s.getLast? fun c final => List.mem_of_getLast? final
  rw [DomainName.IsLabel, Text.lower, List.length_map, List.head?_map, List.getLast?_map, ne_eq,
    ne_eq, ne_eq, head, last]
  constructor
  · rintro ⟨_, _, noHead, noLast, _⟩
    exact ⟨noHead, noLast⟩
  · rintro ⟨noHead, noLast⟩
    refine ⟨?_, short, noHead, noLast, ?_⟩
    · rw [List.map_eq_nil_iff]
      rintro rfl
      cases nonempty
    · intro c member
      obtain ⟨original, inSelector, rfl⟩ := List.mem_map.mp member
      exact (chars original inSelector).lower_isLabelChar

theorem keyName_ok (child : DomainName) :
    keyName (String.ofList s) name.text = .ok child ↔
      child.text.toList = Text.lower s ++ keyLabel ++ '.' :: name.text.toList := by
  have label : (String.ofList s ++ "._domainkey").toList = s ++ keyLabel := by
    rw [String.toList_append, String.toList_ofList]
    rfl
  have solid : (s ++ keyLabel).any Text.isBlank = false := by
    rw [List.any_append, Bool.or_eq_false_iff]
    refine ⟨List.any_eq_false.mpr fun c inside => ?_, by decide⟩
    exact Bool.eq_false_iff.mp (chars c inside).solid
  have ascii : Idna.allAscii (s ++ keyLabel) = true := by
    rw [Idna.allAscii, List.all_append, Bool.and_eq_true]
    exact ⟨List.all_eq_true.mpr fun c inside => (chars c inside).ascii, by decide⟩
  have final : (s ++ keyLabel).getLast? = some 'y' := by
    have own : keyLabel.getLast? = some 'y' := by decide
    rw [List.getLast?_append, own, Option.some_or]
  rw [keyName, LookupFailure.parseChild_ok, DomainName.child_ok, label, Text.lower_append]
  · rfl
  · rwa [label]
  · rwa [label]
  · rw [label, final]
    decide

theorem keyName_form (nonempty : 1 ≤ s.length) (short : s.length ≤ 63) :
    DomainName.IsCanonical (Text.lower s ++ keyLabel ++ '.' :: name.text.toList) ↔
      s.head? ≠ some '-' ∧ s.getLast? ≠ some '-' ∧ s.length + 12 + name.text.length ≤ 253 := by
  have noDot : ∀ c ∈ Text.lower s, (c == '.') = false := by
    intro c member
    obtain ⟨original, inSelector, rfl⟩ := List.mem_map.mp member
    exact (chars original inSelector).lower_not_dot
  have parts : Text.fields '.' (Text.lower s ++ keyLabel) =
      [Text.lower s, "_domainkey".toList] := by
    have split := Text.splitWhere_append (· == '.') (Text.lower s) "_domainkey".toList '.' rfl
    have whole : Text.splitWhere (· == '.') "_domainkey".toList = ["_domainkey".toList] := by
      decide
    rw [Text.splitWhere_whole _ _ noDot, whole] at split
    exact split
  have domainKey : DomainName.IsLabel "_domainkey".toList :=
    DomainName.labelFault?_eq_none_iff.mp (by decide)
  have length : (Text.lower s ++ keyLabel).length = s.length + 11 := by
    rw [List.length_append, Text.lower, List.length_map]
    rfl
  rw [DomainName.canonical_under, parts, length, List.forall_mem_cons, List.forall_mem_singleton,
    lower_isLabel s chars nonempty short, DomainName.maxLength]
  constructor
  · rintro ⟨fits, ⟨noHead, noLast⟩, _⟩
    exact ⟨noHead, noLast, by omega⟩
  · rintro ⟨noHead, noLast, fits⟩
    exact ⟨by omega, ⟨noHead, noLast⟩, domainKey⟩

end KeyName

def NamesKey (name : DomainName) (s : List Char) : Prop :=
  (1 ≤ s.length ∧ s.length ≤ 63 ∧ ∀ c ∈ s, IsSelectorChar c) ∧
    s.head? ≠ some '-' ∧ s.getLast? ≠ some '-' ∧ s.length + 12 + name.text.length ≤ 253

instance (name : DomainName) (s : List Char) : Decidable (NamesKey name s) :=
  decidable_of_iff (isSelector s = true ∧ s.head? ≠ some '-' ∧ s.getLast? ≠ some '-' ∧
    s.length + 12 + name.text.length ≤ 253) ((isSelector_iff s).and Iff.rfl)

/-- Where the key of a selector is looked for under `name`, if anywhere. -/
def keyText? (name : DomainName) (selector : String) : Option String :=
  let s := Text.trim selector.toList
  if NamesKey name s then some (String.ofList (Text.lower s) ++ "._domainkey." ++ name.text)
  else none

theorem keyText_eq_some (name : DomainName) (selector text : String) :
    keyText? name selector = some text ↔
      NamesKey name (Text.trim selector.toList) ∧
        text = String.ofList (Text.lower (Text.trim selector.toList)) ++ "._domainkey." ++
          name.text := by
  rw [keyText?]
  split
  · rename_i names
    rw [Option.some_inj, eq_comm]
    exact (and_iff_right names).symm
  · rename_i nameless
    exact ⟨fun absent => (nomatch absent), fun names => absurd names.1 nameless⟩

theorem keyName_text (name child : DomainName) (s : List Char)
    (chars : ∀ c ∈ s, IsSelectorChar c) :
    keyName (String.ofList s) name.text = .ok child ↔
      child.text = String.ofList (Text.lower s) ++ "._domainkey." ++ name.text := by
  rw [keyName_ok name s chars, ← String.toList_inj, String.toList_append, String.toList_append,
    String.toList_ofList, List.append_assoc, List.append_assoc]
  rfl

theorem probe_text (resolver : Resolver) (name : DomainName) (selector : String) :
    (probe resolver name.text selector).2.map (·.text) = keyText? name selector := by
  rw [probe, keyText?, Text.trimmed, isValidSelector, String.toList_ofList]
  generalize Text.trim selector.toList = s
  by_cases selects : isSelector s = true
  · obtain ⟨nonempty, short, chars⟩ := (isSelector_iff s).mp selects
    have form := (DomainName.exists_ok_iff (keyName_ok name s chars)).trans
      (keyName_form name s chars nonempty short)
    simp only [selects, Bool.not_true, Bool.false_eq_true, ↓reduceIte]
    cases made : keyName (String.ofList s) name.text with
    | ok child =>
        have names : NamesKey name s := ⟨⟨nonempty, short, chars⟩, form.mp ⟨child, made⟩⟩
        rw [if_pos names]
        exact congrArg some ((keyName_text name child s chars).mp made)
    | error failure =>
        have nameless : ¬ NamesKey name s := by
          rintro ⟨_, ends⟩
          obtain ⟨child, found⟩ := form.mpr ends
          rw [found] at made
          cases made
        rw [if_neg nameless]
        rfl
  · have nameless : ¬ NamesKey name s := fun names => selects ((isSelector_iff s).mpr names.1)
    rw [if_neg nameless]
    simp only [selects, Bool.not_false, ↓reduceIte]
    rfl

theorem probeAll_texts (resolver : Resolver) (name : DomainName) (selectors : List String) :
    (probeAll resolver name.text selectors).2.map (·.text) =
      selectors.filterMap (keyText? name) := by
  have each : (fun selector => (probe resolver name.text selector).2.map (·.text)) =
      keyText? name := funext fun selector => probe_text resolver name selector
  rw [probeAll, List.filterMap_map, List.map_filterMap, ← each]
  rfl

end Dkim

namespace Dmarc

def policyText? (name : DomainName) : Option String :=
  if name.text.length + 7 ≤ 253 then some ("_dmarc." ++ name.text) else none

theorem policyName_ok (name child : DomainName) :
    policyName name.text = .ok child ↔
      child.text.toList = "_dmarc".toList ++ '.' :: name.text.toList := by
  rw [policyName, LookupFailure.parseChild_ok, DomainName.child_ok]
  · rfl
  · decide
  · decide
  · decide

theorem policyName_text (name child : DomainName) :
    policyName name.text = .ok child ↔ child.text = "_dmarc." ++ name.text := by
  rw [policyName_ok, ← String.toList_inj, String.toList_append]
  rfl

theorem policyName_form (name : DomainName) :
    DomainName.IsCanonical ("_dmarc".toList ++ '.' :: name.text.toList) ↔
      name.text.length + 7 ≤ 253 := by
  have parts : Text.fields '.' "_dmarc".toList = ["_dmarc".toList] := by decide
  have label : DomainName.IsLabel "_dmarc".toList :=
    DomainName.labelFault?_eq_none_iff.mp (by decide)
  have length : "_dmarc".toList.length = 6 := rfl
  rw [DomainName.canonical_under, parts, length, List.forall_mem_singleton, DomainName.maxLength]
  constructor
  · rintro ⟨fits, _⟩
    omega
  · intro fits
    exact ⟨by omega, label⟩

theorem check_text (resolver : Resolver) (name : DomainName) :
    (check resolver name.text).2.map (·.text) = policyText? name := by
  have form := (DomainName.exists_ok_iff (policyName_ok name)).trans (policyName_form name)
  rw [check, policyText?]
  cases made : policyName name.text with
  | ok child =>
      have fits : name.text.length + 7 ≤ 253 := form.mp ⟨child, made⟩
      rw [if_pos fits]
      exact congrArg some ((policyName_text name child).mp made)
  | error failure =>
      have long : ¬ name.text.length + 7 ≤ 253 := by
        intro fits
        obtain ⟨child, found⟩ := form.mpr fits
        rw [found] at made
        cases made
      rw [if_neg long]
      rfl

end Dmarc

end SenderAudit
