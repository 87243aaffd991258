import SenderAudit.Proofs.Dmarc.RecordCounts
import SenderAudit.Proofs.PublishedNames
import SenderAudit.Proofs.Versions
import SenderAudit.Proofs.WrittenNumbers

/-!
What the outcome of a check says of the zone. Whether it is valid, has a policy and has no problem
are the same question, which the first record answers; nothing of a record is reported without one.
-/
namespace SenderAudit.Dmarc

/-- A text that opens with the version, and then a semicolon, a blank or nothing. -/
def IsPolicy (text : String) : Prop :=
  Text.OpensWith version (fun c => c == ';' || Text.isBlank c) text.toList

/-- The first of the answers that is a record without the blanks around it. -/
def FirstRecord (answers : List String) (record : String) : Prop :=
  ∃ earlier answer later, answers = earlier ++ answer :: later ∧
    (∀ other ∈ earlier, ¬ IsPolicy (Text.trimmed other)) ∧
    IsPolicy (Text.trimmed answer) ∧ record = Text.trimmed answer

/-- The domain has a child's name for its policy, and the lookup of it finds the record. -/
def Publishes (resolver : Resolver) (domain record : String) : Prop :=
  ∃ name child answers, DomainName.parse domain = .ok name ∧
    child.text = "_dmarc." ++ name.text ∧ (resolver child).texts = .ok answers ∧
    FirstRecord answers record

/-- The last tag with the key has one of the words as its value, letters taken without case. -/
def GivesWord (record key : String) (words : List String) (word : String) : Prop :=
  ∃ value, Text.Assigns record.toList key.toList value ∧ word ∈ words ∧
    word.toList = Text.lower value

def policyWords : List String := ["none", "quarantine", "reject"]

def alignmentWords : List String := ["r", "s"]

theorem isRecord_iff (text : String) : isRecord text.toList = true ↔ IsPolicy text :=
  (Text.opensWith_iff_take version (by decide) _ text.toList).symm

theorem firstRecord_iff (answers : List String) (record : String) :
    FirstRecord answers record ↔ ∃ others, candidates answers = record.toList :: others := by
  have found : (candidates answers).head? = (answers.find? fun answer =>
      isRecord (Text.trimmed answer).toList).map fun answer => Text.trim answer.toList := by
    simp only [candidates, List.head?_filter, List.find?_map, Text.trimmed, String.toList_ofList]
    rfl
  have isText : ∀ answer, Text.trim answer.toList = record.toList ↔
      record = Text.trimmed answer := by
    intro answer
    rw [← String.toList_inj, Text.trimmed, String.toList_ofList, eq_comm]
  rw [← List.head?_eq_some_iff, found]
  simp only [Option.map_eq_some_iff, List.find?_eq_some_iff_append, isText, FirstRecord,
    isRecord_iff, Bool.not_eq_true', ← Bool.not_eq_true]
  constructor
  · rintro ⟨earlier, answer, later, split, others, isFirst, same⟩
    exact ⟨answer, ⟨isFirst, earlier, later, split, others⟩, same⟩
  · rintro ⟨answer, ⟨isFirst, earlier, later, split, others⟩, same⟩
    exact ⟨earlier, answer, later, split, others, isFirst, same⟩

theorem publishes_iff (resolver : Resolver) (domain record : String) :
    Publishes resolver domain record ↔ ∃ child answers others, policyName domain = .ok child ∧
      (resolver child).texts = .ok answers ∧ candidates answers = record.toList :: others := by
  have named : ∀ child, policyName domain = .ok child ↔
      ∃ name, DomainName.parse domain = .ok name ∧ child.text = "_dmarc." ++ name.text := by
    intro child
    simp only [← policyName_text]
    exact LookupFailure.parseChild_iff _ _ _
  simp only [Publishes, firstRecord_iff, named]
  constructor
  · rintro ⟨name, child, answers, parsed, isChild, answered, others, found⟩
    exact ⟨child, answers, others, ⟨name, parsed, isChild⟩, answered, found⟩
  · rintro ⟨child, answers, others, ⟨name, parsed, isChild⟩, answered, found⟩
    exact ⟨name, child, answers, parsed, isChild, answered, others, found⟩

theorem find?_word {α : Type} (every : List α) (word : α → String) (s : List Char) (w : String) :
    (every.find? fun a => (word a).toList == Text.lower s).map word = some w ↔
      w ∈ every.map word ∧ w.toList = Text.lower s := by
  constructor
  · intro found
    obtain ⟨a, isFirst, rfl⟩ := Option.map_eq_some_iff.mp found
    have same := List.find?_some isFirst
    exact ⟨List.mem_map_of_mem (List.mem_of_find?_eq_some isFirst), beq_iff_eq.mp same⟩
  · rintro ⟨isWord, same⟩
    obtain ⟨a, inEvery, rfl⟩ := List.mem_map.mp isWord
    have some : (every.find? fun a => (word a).toList == Text.lower s).isSome = true :=
      List.find?_isSome.mpr ⟨a, inEvery, beq_iff_eq.mpr same⟩
    obtain ⟨b, found⟩ := Option.isSome_iff_exists.mp some
    have isLower := List.find?_some found
    have sameWord : word b = word a :=
      String.toList_inj.mp ((beq_iff_eq.mp isLower).trans same.symm)
    rw [found, Option.map_some, sameWord]

theorem givesWord_iff {α : Type} (every : List α) (word : α → String) (record key : String)
    (solid : key.toList ≠ []) (w : String) :
    ((Text.lastValue? key (Text.tags true record.toList)).bind fun value =>
        every.find? fun a => (word a).toList == Text.lower value).map word = some w ↔
      GivesWord record key (every.map word) w := by
  simp only [Option.map_bind, Option.bind_eq_some_iff, Text.lastValue?_assigns key solid,
    Function.comp_apply, find?_word, GivesWord]

theorem givesPolicy_iff (record key : String) (solid : key.toList ≠ []) (word : String) :
    ((Text.lastValue? key (Text.tags true record.toList)).bind Policy.ofWord?).map Policy.word =
      some word ↔ GivesWord record key policyWords word :=
  givesWord_iff [Policy.none, Policy.quarantine, Policy.reject] Policy.word record key solid word

theorem givesAlignment_iff (record key : String) (solid : key.toList ≠ []) (word : String) :
    ((Text.lastValue? key (Text.tags true record.toList)).bind Alignment.ofWord?).map
      Alignment.word = some word ↔ GivesWord record key alignmentWords word :=
  givesWord_iff [Alignment.relaxed, Alignment.strict] Alignment.word record key solid word

theorem readSubdomainPolicy_fst (value : Option (List Char)) :
    (readSubdomainPolicy value).1 = value.bind Policy.ofWord? := by
  fun_cases readSubdomainPolicy value <;> simp_all

theorem readAlignment_fst (tag : AlignmentTag) (value : Option (List Char)) :
    (readAlignment tag value).1 = value.bind Alignment.ofWord? := by
  fun_cases readAlignment tag value <;> simp_all

theorem readPolicy_decides (o : Outcome) (value : Option (List Char)) (undecided : o.policy = none)
    (fine : o.problem = none) :
    (readPolicy o value).policy = value.bind Policy.ofWord? ∧
      ((readPolicy o value).valid = true ↔ (readPolicy o value).problem = none) ∧
      ((readPolicy o value).valid = true ↔ ∃ policy, (readPolicy o value).policy = some policy) := by
  fun_cases readPolicy o value <;> simp_all [Outcome.fail]

structure Outcome.Reflects (o : Outcome) (resolver : Resolver) (domain : String) : Prop where
  record : ∀ record, o.record = some record ↔ Publishes resolver domain record
  validIfSound : o.valid = true ↔ o.problem = none
  validIfDecided : o.valid = true ↔ ∃ policy, o.policy = some policy
  validIfPublished : o.valid = true ↔
    ∃ record word, Publishes resolver domain record ∧ GivesWord record "p" policyWords word
  policy : ∀ word, o.policy.map Policy.word = some word ↔
    ∃ record, o.record = some record ∧ GivesWord record "p" policyWords word
  subdomainPolicy : ∀ word, o.subdomainPolicy.map Policy.word = some word ↔
    ∃ record, o.record = some record ∧ GivesWord record "sp" policyWords word
  percentage : ∀ n, o.percentage = some n ↔ ∃ record value, o.record = some record ∧
    Text.Assigns record.toList "pct".toList value ∧ Text.Denotes value n ∧ n ≤ 100
  dkimAlignment : ∀ word, o.dkimAlignment.map Alignment.word = some word ↔
    ∃ record, o.record = some record ∧ GivesWord record "adkim" alignmentWords word
  spfAlignment : ∀ word, o.spfAlignment.map Alignment.word = some word ↔
    ∃ record, o.record = some record ∧ GivesWord record "aspf" alignmentWords word
  bare : o.record = none → o = { domain, problem := o.problem }

theorem check_cases (resolver : Resolver) (domain : String) :
    ((∀ record, ¬ Publishes resolver domain record) ∧
      ∃ p, (check resolver domain).1 = ({ domain } : Outcome).fail p) ∨
    ∃ record warnings, (∀ other, Publishes resolver domain other ↔ other = record) ∧
      (check resolver domain).1 =
        readPolicy
          (readOptionalTags { domain, record := some record, warnings }
            (Text.tags true record.toList))
          (Text.lastValue? "p" (Text.tags true record.toList)) := by
  simp only [publishes_iff]
  cases named : policyName domain with
  | error failure =>
      refine .inl ⟨by simp, .badName failure, ?_⟩
      rw [check, named]
  | ok child =>
      cases answered : (resolver child).texts with
      | error failure =>
          refine .inl ⟨by simp [answered],
            if failure.isNameNotFound then .nameNotFound failure else .lookupFailed failure, ?_⟩
          simp only [check, named, answered, assess]
      | ok answers =>
          cases found : candidates answers with
          | nil =>
              refine .inl ⟨by simp [answered, found], .noRecord child, ?_⟩
              simp only [check, named, answered, assess, found]
          | cons text others =>
              obtain ⟨record, rfl⟩ : ∃ record : String, text = record.toList :=
                ⟨String.ofList text, String.toList_ofList.symm⟩
              have read := check_of_records named answered found
              rw [String.ofList_toList] at read
              refine .inr ⟨record, _, fun other => ?_, congrArg Prod.fst read⟩
              simp [answered, found, ← String.toList_inj, eq_comm]

section Reflected

variable {resolver : Resolver} {domain : String}

theorem reflects_of_failure {p : Problem} (nothing : ∀ record, ¬ Publishes resolver domain record)
    (failed : (check resolver domain).1 = ({ domain } : Outcome).fail p) :
    (check resolver domain).1.Reflects resolver domain where
  record := by simp [failed, Outcome.fail, nothing]
  validIfSound := by simp [failed, Outcome.fail]
  validIfDecided := by simp [failed, Outcome.fail]
  validIfPublished := by simp [failed, Outcome.fail, nothing]
  policy := by simp [failed, Outcome.fail]
  subdomainPolicy := by simp [failed, Outcome.fail]
  percentage := percentage_iff resolver domain
  dkimAlignment := by simp [failed, Outcome.fail]
  spfAlignment := by simp [failed, Outcome.fail]
  bare := by simp [failed, Outcome.fail]

theorem reflects_of_record {record : String} {warnings : List Warning}
    (just : ∀ other, Publishes resolver domain other ↔ other = record)
    (read : (check resolver domain).1 =
      readPolicy
        (readOptionalTags { domain, record := some record, warnings }
          (Text.tags true record.toList))
        (Text.lastValue? "p" (Text.tags true record.toList))) :
    (check resolver domain).1.Reflects resolver domain := by
  have percentage := percentage_iff resolver domain
  have decided := readPolicy_decides
    (readOptionalTags { domain, record := some record, warnings } (Text.tags true record.toList))
    (Text.lastValue? "p" (Text.tags true record.toList)) rfl rfl
  rw [← read] at decided
  obtain ⟨policy, sound, present⟩ := decided
  generalize (check resolver domain).1 = o at *
  have recorded : o.record = some record := by
    rw [read, readPolicy_frame]
    rfl
  have subdomain : o.subdomainPolicy =
      (Text.lastValue? "sp" (Text.tags true record.toList)).bind Policy.ofWord? := by
    rw [read, readPolicy_frame]
    exact readSubdomainPolicy_fst _
  have dkim : o.dkimAlignment =
      (Text.lastValue? "adkim" (Text.tags true record.toList)).bind Alignment.ofWord? := by
    rw [read, readPolicy_frame]
    exact readAlignment_fst .adkim _
  have spf : o.spfAlignment =
      (Text.lastValue? "aspf" (Text.tags true record.toList)).bind Alignment.ofWord? := by
    rw [read, readPolicy_frame]
    exact readAlignment_fst .aspf _
  have atRecord : ∀ P : String → Prop, (∃ r, o.record = some r ∧ P r) ↔ P record := by
    simp [recorded]
  have policyWord : ∀ word, o.policy.map Policy.word = some word ↔
      GivesWord record "p" policyWords word := by
    rw [policy]
    exact givesPolicy_iff record "p" (by decide)
  constructor
  case record => simp [recorded, just, eq_comm]
  case validIfSound => exact sound
  case validIfDecided => exact present
  case validIfPublished =>
    simp only [present, just, exists_and_left, exists_eq_left, ← policyWord,
      Option.map_eq_some_iff]
    constructor
    · rintro ⟨found, isPolicy⟩
      exact ⟨_, found, isPolicy, rfl⟩
    · rintro ⟨_, found, isPolicy, _⟩
      exact ⟨found, isPolicy⟩
  case policy =>
    simp only [atRecord]
    exact policyWord
  case subdomainPolicy =>
    simp only [atRecord, subdomain]
    exact givesPolicy_iff record "sp" (by decide)
  case percentage => exact percentage
  case dkimAlignment =>
    simp only [atRecord, dkim]
    exact givesAlignment_iff record "adkim" (by decide)
  case spfAlignment =>
    simp only [atRecord, spf]
    exact givesAlignment_iff record "aspf" (by decide)
  case bare => simp [recorded]

end Reflected

/-- The outcome of a check has a record exactly if one is published; it is valid exactly if it has
no problem, exactly if it has a policy, and exactly if the last `p` of the published record is one
of the three words. What it reports of the other tags is what the record gives, in the words that
there are and up to a hundred percent, and without a record there is nothing but the problem. -/
theorem check_reflects (resolver : Resolver) (domain : String) :
    (check resolver domain).1.Reflects resolver domain := by
  rcases check_cases resolver domain with ⟨nothing, p, failed⟩ | ⟨record, warnings, just, read⟩
  · exact reflects_of_failure nothing failed
  · exact reflects_of_record just read

def policyZone : Resolver :=
  answeringZone ["v=spf1 -all", " v=DMARC1 ; p=block; P = Reject; sp=reject; sp=all; adkim=S ",
    "v=DMARC1; p=none"]

theorem policyZone_reflected :
    (∃ record, Publishes policyZone "A.example." record ∧
      GivesWord record "p" policyWords "reject" ∧
      (∀ word, ¬ GivesWord record "sp" policyWords word) ∧
      GivesWord record "adkim" alignmentWords "s" ∧
      record = "v=DMARC1 ; p=block; P = Reject; sp=reject; sp=all; adkim=S") ∧
    (check policyZone "A.example.").1.valid = true ∧
    (check policyZone "A.example.").1.problem = none ∧
    (∀ record, ¬ Publishes (answeringZone ["v=DMARC10"]) "a.example" record) ∧
    (check (answeringZone ["v=DMARC10"]) "a.example").1 =
      { domain := "a.example", problem := some (.noRecord policyAt) } := by
  have reflects := check_reflects policyZone "A.example."
  have valid : (check policyZone "A.example.").1.valid = true := by decide +kernel
  refine ⟨?_, valid, reflects.validIfSound.mp valid, ?_, by decide +kernel⟩
  · have recorded : (check policyZone "A.example.").1.record =
        some "v=DMARC1 ; p=block; P = Reject; sp=reject; sp=all; adkim=S" := by decide +kernel
    have none' : (check policyZone "A.example.").1.subdomainPolicy = none := by decide +kernel
    have policy := (reflects.policy "reject").mp (by decide +kernel)
    have subdomain := reflects.subdomainPolicy
    have dkim := (reflects.dkimAlignment "s").mp (by decide +kernel)
    simp only [recorded, none', Option.map_none, reduceCtorEq, false_iff, Option.some.injEq,
      exists_eq_left'] at policy subdomain dkim
    exact ⟨_, (reflects.record _).mp recorded, policy, subdomain, dkim, rfl⟩
  · intro record published
    have recorded :=
      ((check_reflects (answeringZone ["v=DMARC10"]) "a.example").record record).mpr published
    have bare : (check (answeringZone ["v=DMARC10"]) "a.example").1.record = none := by
      decide +kernel
    rw [bare] at recorded
    cases recorded

end SenderAudit.Dmarc
