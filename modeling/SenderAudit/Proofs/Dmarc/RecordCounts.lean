import Mathlib.Data.Finset.Card
import SenderAudit.Dmarc.Check

/-!
How many records are said to be published. Only neighbours are compared, so a text that comes
back after another one counts again: the number is that of the different records exactly if
equal ones stand together.
-/
namespace SenderAudit.Dmarc

/-- No text comes back after another one. -/
def Gathered (texts : List (List Char)) : Prop :=
  ∀ s t, [s, t, s].Sublist texts → s = t

/-- How often a text is followed by another one. -/
def turns (texts : List (List Char)) : Nat :=
  (texts.zip texts.tail).countP fun (s, t) => s ≠ t

theorem withoutRepeats_same (s : List Char) (rest : List (List Char)) :
    withoutRepeats (s :: s :: rest) = withoutRepeats (s :: rest) := by
  rw [withoutRepeats, if_pos rfl]

theorem withoutRepeats_other {s t : List Char} (other : s ≠ t) (rest : List (List Char)) :
    withoutRepeats (s :: t :: rest) = s :: withoutRepeats (t :: rest) := by
  rw [withoutRepeats, if_neg other]

theorem mem_withoutRepeats (s : List Char) (texts : List (List Char)) :
    s ∈ withoutRepeats texts ↔ s ∈ texts := by
  fun_induction withoutRepeats texts with
  | case1 => rfl
  | case2 t => rfl
  | case3 t rest ih => simp [ih]
  | case4 t next rest other ih => simp [ih]

theorem withoutRepeats_length (first : List Char) (others : List (List Char)) :
    (withoutRepeats (first :: others)).length = turns (first :: others) + 1 := by
  induction others generalizing first with
  | nil => rfl
  | cons next rest ih =>
      by_cases same : first = next
      · subst same
        simpa [withoutRepeats_same, turns] using ih first
      · simpa [withoutRepeats_other same, turns, same] using ih next

theorem Gathered.tail {s : List Char} {texts : List (List Char)} (gathered : Gathered (s :: texts)) :
    Gathered texts :=
  fun t u among => gathered t u (among.cons s)

theorem gathered_same (s : List Char) (rest : List (List Char)) :
    Gathered (s :: s :: rest) ↔ Gathered (s :: rest) := by
  refine ⟨Gathered.tail, fun gathered t u among => ?_⟩
  rcases List.sublist_cons_iff.mp among with later | ⟨_, start, between⟩
  · exact gathered t u later
  · obtain ⟨rfl, rfl⟩ := List.cons.inj start
    rcases List.sublist_cons_iff.mp between with later | ⟨_, next, _⟩
    · exact gathered t u (later.cons_cons t)
    · exact (List.cons.inj next).1.symm

theorem gathered_other {s t : List Char} (other : s ≠ t) (rest : List (List Char)) :
    Gathered (s :: t :: rest) ↔ s ∉ rest ∧ Gathered (t :: rest) := by
  constructor
  · intro gathered
    refine ⟨fun back => other ?_, gathered.tail⟩
    exact gathered s t (((List.singleton_sublist.mpr back).cons_cons t).cons_cons s)
  · rintro ⟨gone, gathered⟩ u v among
    rcases List.sublist_cons_iff.mp among with later | ⟨_, start, between⟩
    · exact gathered u v later
    · obtain ⟨rfl, rfl⟩ := List.cons.inj start
      have back : u ∈ t :: rest := between.mem (by simp)
      rcases List.mem_cons.mp back with next | later
      · exact absurd next other
      · exact absurd later gone

theorem withoutRepeats_nodup (texts : List (List Char)) :
    (withoutRepeats texts).Nodup ↔ Gathered texts := by
  fun_induction withoutRepeats texts with
  | case1 => simp [Gathered]
  | case2 s => simp [Gathered]
  | case3 s rest ih => rw [ih, gathered_same]
  | case4 s t rest other ih =>
      rw [List.nodup_cons, ih, mem_withoutRepeats, gathered_other other]
      simp [other]

/-- The different texts are as many as the turns and one, or fewer if one comes back. -/
theorem card_turns (first : List Char) (others : List (List Char)) :
    (first :: others).toFinset.card ≤ turns (first :: others) + 1 ∧
      ((first :: others).toFinset.card = turns (first :: others) + 1 ↔
        Gathered (first :: others)) := by
  have same : (withoutRepeats (first :: others)).toFinset = (first :: others).toFinset := by
    ext s
    rw [List.mem_toFinset, List.mem_toFinset, mem_withoutRepeats]
  rw [← withoutRepeats_length, ← withoutRepeats_nodup, ← same]
  exact ⟨List.toFinset_card_le _, Multiset.toFinset_card_eq_card_iff_nodup⟩

theorem turns_pos_iff (first : List Char) (others : List (List Char)) :
    0 < turns (first :: others) ↔ ∃ s ∈ first :: others, ∃ t ∈ first :: others, s ≠ t := by
  constructor
  · intro positive
    obtain ⟨⟨s, t⟩, neighbours, differ⟩ := List.countP_pos_iff.mp positive
    obtain ⟨isFirst, isSecond⟩ := List.of_mem_zip neighbours
    exact ⟨s, isFirst, t, List.mem_of_mem_tail isSecond, of_decide_eq_true differ⟩
  · rintro ⟨s, isFirst, t, isSecond, differ⟩
    have several : 1 < (first :: others).toFinset.card :=
      Finset.one_lt_card.mpr
        ⟨s, List.mem_toFinset.mpr isFirst, t, List.mem_toFinset.mpr isSecond, differ⟩
    have atMost := (card_turns first others).1
    omega

/-! The tags of a record give no warning of several records. -/

def IsOfTag (w : Warning) : Prop :=
  ∀ count, w ≠ .severalRecords count

theorem readSubdomainPolicy_ofTag (value : Option (List Char)) :
    ∀ w ∈ (readSubdomainPolicy value).2, IsOfTag w := by
  fun_cases readSubdomainPolicy value <;> simp [IsOfTag]

theorem readPercentage_ofTag (value : Option (List Char)) :
    ∀ w ∈ (readPercentage value).2, IsOfTag w := by
  fun_cases readPercentage value with
  | case1 => simp
  | case2 value n read => split <;> simp [IsOfTag]
  | case3 value unread => simp [IsOfTag]

theorem readAddresses_ofTag (tag : AddressTag) (value : Option (List Char)) :
    ∀ w ∈ (readAddresses tag value).2, IsOfTag w := by
  cases value with
  | none => simp [readAddresses]
  | some value =>
      intro w noted
      obtain ⟨uri, _, rfl⟩ := List.mem_map.mp noted
      exact fun count => nofun

theorem readAlignment_ofTag (tag : AlignmentTag) (value : Option (List Char)) :
    ∀ w ∈ (readAlignment tag value).2, IsOfTag w := by
  fun_cases readAlignment tag value <;> simp [IsOfTag]

theorem readOptionalTags_warnings (o : Outcome) (ts : List Text.Tag) :
    ∃ more, (readOptionalTags o ts).warnings = o.warnings ++ more ∧ ∀ w ∈ more, IsOfTag w := by
  simp only [readOptionalTags, List.append_assoc]
  refine ⟨_, rfl, ?_⟩
  simp only [List.forall_mem_append]
  exact ⟨readSubdomainPolicy_ofTag _, readPercentage_ofTag _, readAddresses_ofTag _ _,
    readAddresses_ofTag _ _, readAlignment_ofTag _ _, readAlignment_ofTag _ _⟩

theorem readPolicy_frame (o : Outcome) (value : Option (List Char)) :
    readPolicy o value = { o with
      valid := (readPolicy o value).valid
      policy := (readPolicy o value).policy
      problem := (readPolicy o value).problem } := by
  unfold readPolicy
  split
  · rfl
  · split <;> rfl

theorem readPolicy_record (o : Outcome) (value : Option (List Char)) :
    (readPolicy o value).record = o.record := by
  rw [readPolicy_frame]

theorem readPolicy_percentage (o : Outcome) (value : Option (List Char)) :
    (readPolicy o value).percentage = o.percentage := by
  rw [readPolicy_frame]

theorem readPolicy_warnings (o : Outcome) (value : Option (List Char)) :
    (readPolicy o value).warnings = o.warnings := by
  rw [readPolicy_frame]

/-- The first record is read; how many there are is said before what its tags say. -/
theorem check_of_records {resolver : Resolver} {domain : String} {name : DomainName}
    {answers : List String} {record : List Char} {others : List (List Char)}
    (named : policyName domain = .ok name) (answered : (resolver name).texts = .ok answers)
    (found : candidates answers = record :: others) :
    check resolver domain =
      (readPolicy
        (readOptionalTags
          { domain
            record := some (String.ofList record)
            warnings := if turns (candidates answers) = 0 then []
              else [.severalRecords (turns (candidates answers) + 1)] }
          (Text.tags true record))
        (Text.lastValue? "p" (Text.tags true record)), some name) := by
  have moved : (if turns (record :: others) + 1 > 1 then
        [Warning.severalRecords (turns (record :: others) + 1)] else []) =
      if turns (record :: others) = 0 then []
        else [.severalRecords (turns (record :: others) + 1)] := by
    split <;> split <;> first | rfl | omega
  simp only [check, named, answered, assess, found, withoutRepeats_length, moved]

def Outcome.Counts (o : Outcome) (count : Nat) : Prop :=
  .severalRecords count ∈ o.warnings

section Counted

variable {resolver : Resolver} {domain : String} {name : DomainName} {answers : List String}
  (named : policyName domain = .ok name) (answered : (resolver name).texts = .ok answers)

include named answered

theorem check_counts_iff (count : Nat) : (check resolver domain).1.Counts count ↔
    (∃ s ∈ candidates answers, ∃ t ∈ candidates answers, s ≠ t) ∧
      count = turns (candidates answers) + 1 := by
  cases found : candidates answers with
  | nil => simp [check, named, answered, assess, found, Outcome.fail, Outcome.Counts]
  | cons record others =>
      rw [← turns_pos_iff, Outcome.Counts, check_of_records named answered found,
        readPolicy_warnings, found]
      obtain ⟨more, split, ofTags⟩ := readOptionalTags_warnings
        { domain
          record := some (String.ofList record)
          warnings := if turns (record :: others) = 0 then []
            else [.severalRecords (turns (record :: others) + 1)] } (Text.tags true record)
      have notMore : .severalRecords count ∉ more :=
        fun noted => ofTags _ noted count rfl
      rw [split, List.mem_append]
      by_cases none : turns (record :: others) = 0
      · simp [none, notMore]
      · simp [none, notMore, Nat.pos_of_ne_zero none]

theorem check_counts_distinct (count : Nat) (counts : (check resolver domain).1.Counts count) :
    (candidates answers).toFinset.card ≤ count ∧
      (count = (candidates answers).toFinset.card ↔ Gathered (candidates answers)) := by
  obtain ⟨⟨s, member, _⟩, rfl⟩ := (check_counts_iff named answered count).mp counts
  cases found : candidates answers with
  | nil =>
      rw [found] at member
      cases member
  | cons record others =>
      rw [eq_comm]
      exact card_turns record others

theorem check_counts_gathered (gathered : Gathered (candidates answers)) (count : Nat) :
    (check resolver domain).1.Counts count ↔
      1 < (candidates answers).toFinset.card ∧ count = (candidates answers).toFinset.card := by
  have several : (∃ s ∈ candidates answers, ∃ t ∈ candidates answers, s ≠ t) ↔
      1 < (candidates answers).toFinset.card := by
    simp only [Finset.one_lt_card, List.mem_toFinset]
  constructor
  · intro counts
    exact ⟨several.mp ((check_counts_iff named answered count).mp counts).1,
      (check_counts_distinct named answered count counts).2.mpr gathered⟩
  · rintro ⟨two, rfl⟩
    have warned := (check_counts_iff named answered _).mpr ⟨several.mpr two, rfl⟩
    rwa [(check_counts_distinct named answered _ warned).2.mpr gathered] at warned

end Counted

/-- The warning of several records is given if two different texts are records. Its number is by
one more than the turns from one record to another: at least that of the different records, and
just that if equal ones stand together. So the same records in other order and number are warned
of as well, and with the same number if equal ones stand together each time. -/
theorem check_counts_records (resolver : Resolver) (domain : String) (name : DomainName)
    (answers : List String) (named : policyName domain = .ok name)
    (answered : (resolver name).texts = .ok answers) :
    (∀ count, (check resolver domain).1.Counts count ↔
      (∃ s ∈ candidates answers, ∃ t ∈ candidates answers, s ≠ t) ∧
        count = turns (candidates answers) + 1) ∧
    (∀ count, (check resolver domain).1.Counts count →
      (candidates answers).toFinset.card ≤ count ∧
        (count = (candidates answers).toFinset.card ↔ Gathered (candidates answers))) ∧
    ∀ other others, (other name).texts = .ok others →
      (∀ text, text ∈ candidates others ↔ text ∈ candidates answers) →
        ((∃ count, (check other domain).1.Counts count) ↔
          ∃ count, (check resolver domain).1.Counts count) ∧
        (Gathered (candidates answers) → Gathered (candidates others) → ∀ count,
          (check other domain).1.Counts count ↔ (check resolver domain).1.Counts count) := by
  refine ⟨check_counts_iff named answered, check_counts_distinct named answered, ?_⟩
  intro other others answered' same
  constructor
  · simp only [check_counts_iff named answered', check_counts_iff named answered, same,
      exists_and_left, exists_eq, and_true]
  · intro gathered gathered' count
    have asSet : (candidates others).toFinset = (candidates answers).toFinset := by
      ext text
      rw [List.mem_toFinset, List.mem_toFinset, same]
    rw [check_counts_gathered named answered' gathered' count,
      check_counts_gathered named answered gathered count, asSet]

instance (o : Outcome) (count : Nat) : Decidable (o.Counts count) :=
  inferInstanceAs (Decidable (_ ∈ _))

def answeringZone (answers : List String) : Resolver := fun _ =>
  ⟨.ok answers, 0⟩

def policyAt : DomainName where
  text := "_dmarc.a.example"
  canonical := DomainName.fault?_eq_none_iff.mp (by decide +kernel)

def gatheredAnswers : List String :=
  ["v=DMARC1; p=none", "v=DMARC10; p=none", " v=DMARC1; p=none", "v=DMARC1; p=reject"]

def reorderedAnswers : List String :=
  ["v=DMARC1; p=reject", "v=DMARC1; p=reject", "v=DMARC1; p=none"]

theorem gatheredAnswers_counted :
    policyName "a.example" = .ok policyAt ∧
    Gathered (candidates gatheredAnswers) ∧ Gathered (candidates reorderedAnswers) ∧
    (∀ text, text ∈ candidates reorderedAnswers ↔ text ∈ candidates gatheredAnswers) ∧
    (check (answeringZone gatheredAnswers) "a.example").1.Counts 2 ∧
    (check (answeringZone reorderedAnswers) "a.example").1.Counts 2 := by
  have named : policyName "a.example" = .ok policyAt := by decide +kernel
  have gathered : Gathered (candidates gatheredAnswers) :=
    (withoutRepeats_nodup _).mp (by decide +kernel)
  have gathered' : Gathered (candidates reorderedAnswers) :=
    (withoutRepeats_nodup _).mp (by decide +kernel)
  have same : ∀ text, text ∈ candidates reorderedAnswers ↔ text ∈ candidates gatheredAnswers := by
    have sets : (candidates reorderedAnswers).toFinset = (candidates gatheredAnswers).toFinset := by
      decide +kernel
    intro text
    rw [← List.mem_toFinset, sets, List.mem_toFinset]
  obtain ⟨warned, _, alike⟩ := check_counts_records (answeringZone gatheredAnswers) "a.example"
    policyAt gatheredAnswers named rfl
  have two := (warned 2).mpr ⟨by decide +kernel, by decide +kernel⟩
  exact ⟨named, gathered, gathered', same, two,
    ((alike (answeringZone reorderedAnswers) _ rfl same).2 gathered gathered' 2).mpr two⟩

def returningAnswers : List String :=
  ["v=DMARC1; p=none", "v=DMARC1; p=reject", "v=DMARC1; p=none"]

def returningAnswersInRow : List String :=
  ["v=DMARC1; p=none", "v=DMARC1; p=none", "v=DMARC1; p=reject"]

-- Of two records three are counted, but two if the equal ones stand together.
theorem returningAnswers_counted_again :
    returningAnswersInRow.Perm returningAnswers ∧
    (candidates returningAnswers).toFinset.card = 2 ∧
    (check (answeringZone returningAnswers) "a.example").1.Counts 3 ∧
    (check (answeringZone returningAnswersInRow) "a.example").1.Counts 2 := by
  refine ⟨?_, by decide +kernel, by decide +kernel, by decide +kernel⟩
  exact (List.Perm.swap _ _ []).cons _

end SenderAudit.Dmarc
