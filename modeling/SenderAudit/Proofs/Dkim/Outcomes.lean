import SenderAudit.Dkim.Probe
import SenderAudit.Proofs.PublishedNames
import SenderAudit.Proofs.TagValues

/-!
What the outcome of a probe says of the zone. It is valid if it has no problem, which is so if a
record is found whose last `p` is not blank; the other tags are reported of every record that is
found, except that only a valid outcome has the size of a key.
-/
namespace SenderAudit.Dkim

/-- The selector without the blanks around it has a key's name, and the lookup of it finds the
record. -/
def Finds (resolver : Resolver) (domain selector record : String) : Prop :=
  let s := Text.trim selector.toList
  (1 ≤ s.length ∧ s.length ≤ 63 ∧ ∀ c ∈ s, IsSelectorChar c) ∧
    ∃ name key answers, DomainName.parse domain = .ok name ∧
      key.text = String.ofList (Text.lower s) ++ "._domainkey." ++ name.text ∧
      (resolver key).texts = .ok answers ∧ findRecord? answers = some record

/-- The last `p` has more than blanks as its value. -/
def HoldsKey (record : String) : Prop :=
  ∃ value, Text.Sets record.toList "p".toList value ∧ ∃ c ∈ value, Text.isBlank c = false

/-- The last `k` gives the type in lower case; without one the type is that of RSA. -/
def GivesType (record type : String) : Prop :=
  (∃ value, Text.Sets record.toList "k".toList value ∧ type.toList = Text.lower value) ∨
    (∀ value, ¬ Text.Sets record.toList "k".toList value) ∧ type = "rsa"

def IsInTest (record : String) : Prop :=
  ∃ flags, Text.Sets record.toList "t".toList flags ∧
    ∃ flag ∈ Text.fields ':' flags, Text.lower (Text.trim flag) = ['y']

theorem finds_iff (resolver : Resolver) (domain selector record : String) :
    Finds resolver domain selector record ↔
      isValidSelector (Text.trimmed selector) = true ∧ ∃ key answers,
        keyName (Text.trimmed selector) domain = .ok key ∧ (resolver key).texts = .ok answers ∧
          findRecord? answers = some record := by
  rw [Finds, isValidSelector, Text.trimmed, String.toList_ofList, isSelector_iff]
  apply and_congr_right
  rintro ⟨_, _, chars⟩
  have named : ∀ key, keyName (String.ofList (Text.trim selector.toList)) domain = .ok key ↔
      ∃ name, DomainName.parse domain = .ok name ∧
        key.text = String.ofList (Text.lower (Text.trim selector.toList)) ++ "._domainkey." ++
          name.text := by
    intro key
    simp only [← keyName_text _ _ _ chars]
    exact LookupFailure.parseChild_iff _ _ _
  simp only [named]
  constructor
  · rintro ⟨name, key, answers, parsed, isKey, found⟩
    exact ⟨key, answers, ⟨name, parsed, isKey⟩, found⟩
  · rintro ⟨key, answers, ⟨name, parsed, isKey⟩, found⟩
    exact ⟨name, key, answers, parsed, isKey, found⟩

theorem publicKey_iff (record : String) :
    (KeyTags.read record.toList).publicKey ≠ [] ↔ HoldsKey record := by
  have filtered : ∀ value : List Char, value.filter (!Text.isBlank ·) ≠ [] ↔
      ∃ c ∈ value, Text.isBlank c = false := by
    simp
  simp only [HoldsKey, ← Text.lastValue?_sets, KeyTags.read, filtered]
  cases Text.lastValue? "p" (Text.tags false record.toList) <;> simp

theorem keyType_iff (record type : String) :
    (KeyTags.read record.toList).keyType.getD "rsa" = type ↔ GivesType record type := by
  simp only [GivesType, ← Text.lastValue?_sets, KeyTags.read]
  cases Text.lastValue? "k" (Text.tags false record.toList) with
  | none => simp [eq_comm]
  | some value => simp [← String.toList_inj, eq_comm]

theorem testing_iff (record : String) :
    (KeyTags.read record.toList).testing = true ↔ IsInTest record := by
  have low : Text.lower ['y'] = ['y'] := by decide
  simp only [IsInTest, ← Text.lastValue?_sets, KeyTags.read, Option.any_eq_true, isTesting,
    List.any_eq_true, Text.sameLetters, beq_iff_eq, low]

theorem keyBits?_isSome (keyType : String) (publicKey : List Char) :
    (keyBits? keyType publicKey).isSome = true ↔ keyType = "rsa" ∨ keyType = "ed25519" := by
  fun_cases keyBits? keyType publicKey <;> simp_all

theorem probe_cases (resolver : Resolver) (domain selector : String) :
    ((∀ record, ¬ Finds resolver domain selector record) ∧
      ∃ p, (probe resolver domain selector).1 =
        ({ selector := Text.trimmed selector, domain } : Outcome).fail p) ∨
    ∃ record, (∀ other, Finds resolver domain selector other ↔ record = other) ∧
      (probe resolver domain selector).1 =
        assessRecord { selector := Text.trimmed selector, domain } record := by
  simp only [finds_iff]
  by_cases selects : isValidSelector (Text.trimmed selector) = true
  · cases named : keyName (Text.trimmed selector) domain with
    | error failure =>
        refine .inl ⟨by simp, .badName failure, ?_⟩
        simp [probe, selects, named]
    | ok key =>
        have run : (probe resolver domain selector).1 =
            assess { selector := Text.trimmed selector, domain } key (resolver key).texts := by
          simp [probe, selects, named]
        rw [run]
        cases answered : (resolver key).texts with
        | error failure => exact .inl ⟨by simp [answered], _, rfl⟩
        | ok answers =>
            cases found : findRecord? answers with
            | none =>
                refine .inl ⟨by simp [answered, found], .noRecord (Text.trimmed selector) key, ?_⟩
                simp [assess, found]
            | some record =>
                refine .inr ⟨record, ?_, by simp [assess, found]⟩
                simp [selects, answered, found]
  · refine .inl ⟨by simp [selects], .badSelector (Text.trimmed selector), ?_⟩
    simp [probe, selects]

structure Outcome.Reflects (o : Outcome) (resolver : Resolver) (domain selector : String) :
    Prop where
  record : ∀ record, o.record = some record ↔ Finds resolver domain selector record
  validIfSound : o.valid = true ↔ o.problem = none
  validIfFound : o.valid = true ↔
    ∃ record, Finds resolver domain selector record ∧ HoldsKey record
  whole : o.valid = true → ∃ record keyType, o.record = some record ∧ o.keyType = some keyType
  keyType : ∀ keyType, o.keyType = some keyType ↔
    ∃ record, o.record = some record ∧ GivesType record keyType
  keyBits : o.keyBits.isSome = true ↔
    o.valid = true ∧ (o.keyType = some "rsa" ∨ o.keyType = some "ed25519")
  testing : o.testing = true ↔ ∃ record, o.record = some record ∧ IsInTest record
  bare : o.record = none →
    o = { selector := Text.trimmed selector, domain, problem := o.problem }

section Reflected

variable {resolver : Resolver} {domain selector : String}

theorem reflects_of_failure {p : Problem}
    (nothing : ∀ record, ¬ Finds resolver domain selector record) :
    (({ selector := Text.trimmed selector, domain } : Outcome).fail p).Reflects
      resolver domain selector := by
  constructor <;> simp [Outcome.fail, nothing]

theorem reflects_of_record {record : String}
    (just : ∀ other, Finds resolver domain selector other ↔ record = other) :
    (assessRecord { selector := Text.trimmed selector, domain } record).Reflects
      resolver domain selector := by
  have holds := publicKey_iff record
  have type := keyType_iff record
  have test := testing_iff record
  generalize isRead : KeyTags.read record.toList = tags at holds type test
  by_cases keyless : tags.publicKey = []
  · have read : assessRecord { selector := Text.trimmed selector, domain } record =
        { selector := Text.trimmed selector, domain, record := some record,
          problem := some .noKey, keyType := some (tags.keyType.getD "rsa"),
          testing := tags.testing } := by
      simp [assessRecord, isRead, keyless, Outcome.fail]
    rw [read]
    constructor <;> simp [just, ← holds, ← type, ← test, keyless]
  · have read : assessRecord { selector := Text.trimmed selector, domain } record =
        { selector := Text.trimmed selector, domain, valid := true, record := some record,
          keyType := some (tags.keyType.getD "rsa"),
          keyBits := keyBits? (tags.keyType.getD "rsa") tags.publicKey,
          testing := tags.testing } := by
      simp [assessRecord, isRead, keyless]
    rw [read]
    constructor <;> simp [just, ← holds, ← type, ← test, keyless, keyBits?_isSome]

end Reflected

/-- The outcome of a probe has a record exactly if one is found; it is valid exactly if it has no
problem, and exactly if the last `p` of that record is more than blanks. The type of the key and
whether it is in a test are what the record says, and only a valid outcome has the size of a key,
if that is of RSA or of the modern type. Without a record there is nothing but the problem. -/
theorem probe_reflects (resolver : Resolver) (domain selector : String) :
    (probe resolver domain selector).1.Reflects resolver domain selector := by
  rcases probe_cases resolver domain selector with ⟨nothing, p, failed⟩ | ⟨record, just, read⟩
  · rw [failed]
    exact reflects_of_failure nothing
  · rw [read]
    exact reflects_of_record just

def taggedZone : Resolver := fun _ =>
  ⟨.ok ["v=DKIM1", "x; V=dkim1 ; k=rsa; K = Ed25519; p=; t=s: Y ; k; p = A B "], 0⟩

def revokedZone : Resolver := fun _ =>
  ⟨.ok ["v=DKIM1; p=AB; p= "], 0⟩

theorem taggedZone_reflected :
    (∃ record, Finds taggedZone "A.example." " S1 " record ∧ HoldsKey record ∧
      GivesType record "ed25519" ∧ IsInTest record ∧
      record = "V=dkim1 ; k=rsa; K = Ed25519; p=; t=s: Y ; k; p = A B") ∧
    (probe taggedZone "A.example." " S1 ").1.keyBits = some 256 ∧
    (∃ record, Finds revokedZone "a.example" "s1" record ∧ ¬ HoldsKey record ∧
      GivesType record "rsa" ∧ ¬ IsInTest record) ∧
    (probe revokedZone "a.example" "s1").1.problem = some .noKey ∧
    ∀ record, ¬ Finds revokedZone "a.example" "s.1" record := by
  refine ⟨?_, by decide +kernel, ?_, by decide +kernel, ?_⟩
  · have reflects := probe_reflects taggedZone "A.example." " S1 "
    have recorded : (probe taggedZone "A.example." " S1 ").1.record =
        some "V=dkim1 ; k=rsa; K = Ed25519; p=; t=s: Y ; k; p = A B" := by decide +kernel
    have holds := reflects.validIfFound.mp (by decide +kernel)
    have type := (reflects.keyType "ed25519").mp (by decide +kernel)
    have test := reflects.testing.mp (by decide +kernel)
    simp only [← reflects.record, recorded, Option.some.injEq, exists_eq_left'] at holds type test
    exact ⟨_, (reflects.record _).mp recorded, holds, type, test, rfl⟩
  · have reflects := probe_reflects revokedZone "a.example" "s1"
    have recorded : (probe revokedZone "a.example" "s1").1.record = some "v=DKIM1; p=AB; p=" := by
      decide +kernel
    have holds := mt reflects.validIfFound.mpr (by decide +kernel)
    have type := (reflects.keyType "rsa").mp (by decide +kernel)
    have test := mt reflects.testing.mpr (by decide +kernel)
    simp only [← reflects.record, recorded, Option.some.injEq, exists_eq_left'] at holds type test
    exact ⟨_, (reflects.record _).mp recorded, holds, type, test⟩
  · intro record found
    have recorded := ((probe_reflects revokedZone "a.example" "s.1").record record).mpr found
    have bare : (probe revokedZone "a.example" "s.1").1.record = none := by decide +kernel
    rw [bare] at recorded
    cases recorded

end SenderAudit.Dkim
