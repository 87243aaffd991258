import SenderAudit.Proofs.Reports
import SenderAudit.Proofs.Spf.Visit

/-!
Texts that are records of no kind. A check hears of an answer only the records that it looks
for, so two zones that differ by other texts are audited alike: every node of the evaluation
is read and timed as before, and so are the keys and the policy.
-/
namespace SenderAudit

/-- A text that none of the checks takes for a record. -/
def IsUnrelated (text : String) : Prop :=
  Spf.isRecord (Text.trim text.toList) = false ∧
    Dmarc.isRecord (Text.trim text.toList) = false ∧ Dkim.findRecord? [text] = none

instance (text : String) : Decidable (IsUnrelated text) :=
  inferInstanceAs (Decidable (_ ∧ _ ∧ _))

/-- The same texts in the same order, but for unrelated ones among either. -/
inductive SameRecords : List String → List String → Prop
  | none : SameRecords [] []
  | shared (text : String) {texts others : List String} (same : SameRecords texts others) :
      SameRecords (text :: texts) (text :: others)
  | left {text : String} {texts others : List String} (unrelated : IsUnrelated text)
      (same : SameRecords texts others) : SameRecords (text :: texts) others
  | right {text : String} {texts others : List String} (unrelated : IsUnrelated text)
      (same : SameRecords texts others) : SameRecords texts (text :: others)

namespace SameRecords

variable {texts others : List String}

theorem filter_eq (test : List Char → Bool)
    (fails : ∀ text, IsUnrelated text → test (Text.trim text.toList) = false)
    (same : SameRecords texts others) :
    (texts.map fun text => Text.trim text.toList).filter test =
      (others.map fun text => Text.trim text.toList).filter test := by
  induction same with
  | none => rfl
  | shared text _ ih => rw [List.map_cons, List.map_cons, List.filter_cons, List.filter_cons, ih]
  | left unrelated _ ih =>
      rw [List.map_cons, List.filter_cons_of_neg (Bool.eq_false_iff.mp (fails _ unrelated)), ih]
  | right unrelated _ ih =>
      rw [List.map_cons, List.filter_cons_of_neg (Bool.eq_false_iff.mp (fails _ unrelated)), ih]

theorem spf_candidates (same : SameRecords texts others) :
    Spf.candidates texts = Spf.candidates others :=
  same.filter_eq Spf.isRecord fun _ unrelated => unrelated.1

theorem dmarc_candidates (same : SameRecords texts others) :
    Dmarc.candidates texts = Dmarc.candidates others :=
  same.filter_eq Dmarc.isRecord fun _ unrelated => unrelated.2.1

theorem dkim_findRecord (same : SameRecords texts others) :
    Dkim.findRecord? texts = Dkim.findRecord? others := by
  have skipped : ∀ text rest, IsUnrelated text →
      Dkim.findRecord? (text :: rest) = Dkim.findRecord? rest := by
    rintro text rest ⟨_, _, alone⟩
    cases found : Dkim.recordIn? text.toList with
    | none => simp [Dkim.findRecord?, found]
    | some record => simp [Dkim.findRecord?, found] at alone
  induction same with
  | none => rfl
  | shared text _ ih =>
      cases found : Dkim.recordIn? text.toList with
      | none => simpa [Dkim.findRecord?, found] using ih
      | some record => simp [Dkim.findRecord?, found]
  | left unrelated _ ih => rw [skipped _ _ unrelated, ih]
  | right unrelated _ ih => rw [skipped _ _ unrelated, ih]

end SameRecords

structure Answer.Alike (answer other : Answer) : Prop where
  delay : answer.delayMs = other.delayMs
  texts : answer.texts = other.texts ∨ ∃ texts others, answer.texts = .ok texts ∧
    other.texts = .ok others ∧ SameRecords texts others

def Resolver.Alike (zone other : Resolver) : Prop :=
  ∀ name, (zone name).Alike (other name)

namespace Spf

-- Of the texts that answer, a node reads the candidates only.
theorem assess_alike (limits : Limits) (visit : Visit) (name : DomainName) (w : Walk)
    {answer other : Answer} (alike : answer.Alike other) :
    assess limits visit name answer.texts w = assess limits visit name other.texts w := by
  rcases alike.texts with same | ⟨texts, others, isTexts, isOthers, same⟩
  · rw [same]
  · rw [isTexts, isOthers]
    simp only [assess, same.spf_candidates]

section Evaluated

variable {zone other : Resolver} (alike : zone.Alike other)

include alike

theorem ask_alike (w : Walk) (deadline : Nat) (name : DomainName) :
    (∃ after, w.ask zone deadline name = (none, after) ∧
        w.ask other deadline name = (none, after)) ∨
      ∃ after, w.ask zone deadline name = (some (zone name).texts, after) ∧
        w.ask other deadline name = (some (other name).texts, after) := by
  simp only [Walk.ask, (alike name).delay]
  split
  · exact Or.inr ⟨_, rfl, rfl⟩
  · split
    · exact Or.inr ⟨_, rfl, rfl⟩
    · exact Or.inl ⟨_, rfl, rfl⟩

theorem explore_alike (limits : Limits) (levels : Nat) (visited : List String) (deadline : Nat)
    (name : DomainName) (w : Walk)
    (below : visitBelow zone limits levels visited name deadline =
      visitBelow other limits levels visited name deadline) :
    explore zone limits levels visited deadline name w =
      explore other limits levels visited deadline name w := by
  unfold explore
  rcases ask_alike alike w deadline name with ⟨after, cut, cut'⟩ | ⟨after, heard, heard'⟩
  · rw [cut, cut']
  · rw [heard, heard', below]
    exact assess_alike limits _ name after (alike name)

theorem visit_alike (limits : Limits) (levels : Nat) (visited : List String)
    (enclosing : Option Nat) (target : Target) (w : Walk) :
    visit zone limits levels visited enclosing target w =
      visit other limits levels visited enclosing target w := by
  -- The checks on entry do not look at the zone, and the nodes below have one level less.
  induction levels generalizing visited enclosing target w with
  | zero => rfl
  | succ levels ih =>
      rcases refusal_cases limits (levels + 1) visited w.spent target with
        ⟨p, refused⟩ | ⟨_, name, ⟨⟩, fresh, affordable, named⟩
      · rw [visit_refused zone limits _ visited enclosing target w p refused,
          visit_refused other limits _ visited enclosing target w p refused]
      · have below : visitBelow zone limits levels visited name =
            visitBelow other limits levels visited name := by
          funext deadline next walk
          exact ih _ _ _ walk
        rw [visit_admitted zone limits levels visited enclosing target w name fresh affordable
            named,
          visit_admitted other limits levels visited enclosing target w name fresh affordable
            named,
          explore_alike alike limits levels visited _ name w (congrFun below _)]

theorem evaluate_alike (limits : Limits) (domain : String) :
    evaluate zone limits domain = evaluate other limits domain := by
  simp only [evaluate, evaluateFrom, visit_alike alike]

end Evaluated

end Spf

namespace Dkim

theorem assess_alike (o : Outcome) (name : DomainName) {answer other : Answer}
    (alike : answer.Alike other) : assess o name answer.texts = assess o name other.texts := by
  rcases alike.texts with same | ⟨texts, others, isTexts, isOthers, same⟩
  · rw [same]
  · rw [isTexts, isOthers]
    simp only [assess, same.dkim_findRecord]

theorem probeAll_alike {zone other : Resolver} (alike : zone.Alike other) (domain : String)
    (selectors : List String) : probeAll zone domain selectors = probeAll other domain selectors := by
  have each : probe zone domain = probe other domain := by
    funext selector
    simp only [probe]
    split
    · rfl
    · split
      · rfl
      · rename_i name _
        rw [assess_alike _ name (alike name)]
  rw [probeAll, probeAll, each]

end Dkim

namespace Dmarc

theorem assess_alike (o : Outcome) (name : DomainName) {answer other : Answer}
    (alike : answer.Alike other) : assess o name answer.texts = assess o name other.texts := by
  rcases alike.texts with same | ⟨texts, others, isTexts, isOthers, same⟩
  · rw [same]
  · rw [isTexts, isOthers]
    simp only [assess, same.dmarc_candidates]

theorem check_alike {zone other : Resolver} (alike : zone.Alike other) (domain : String) :
    check zone domain = check other domain := by
  simp only [check]
  split
  · rfl
  · rename_i name _
    rw [assess_alike _ name (alike name)]

end Dmarc

theorem reportOn_alike {zone other : Resolver} (alike : zone.Alike other) (name : DomainName)
    (options : AuditOptions) : reportOn zone name options = reportOn other name options := by
  rw [reportOn, reportOn, Spf.evaluate_alike alike, Dkim.probeAll_alike alike,
    Dmarc.check_alike alike]

/-- Zones that differ only by texts that are no records, wherever these stand among the
answers, have the same report and lookups. -/
theorem audit_ignores_unrelated (zone other : Resolver) (alike : zone.Alike other)
    (domain : String) (options : AuditOptions) :
    audit zone domain options = audit other domain options := by
  cases parsed : DomainName.parse domain with
  | error fault =>
      rw [audit_eq_refusal zone domain options fault parsed,
        audit_eq_refusal other domain options fault parsed]
  | ok name =>
      rw [audit_eq_reportOn zone domain options name parsed,
        audit_eq_reportOn other domain options name parsed, reportOn_alike alike]

def tidyZone : Resolver := fun name =>
  if name.text = "a.example" then ⟨.ok ["v=spf1 include:_dmarc.a.example -all"], 3⟩
  else if name.text = "_dmarc.a.example" then
    ⟨.ok ["v=DMARC1; p=reject", "v=spf1 mx", "v=DMARC1; p=reject"], 0⟩
  else if name.text = "s1._domainkey.a.example" then ⟨.ok ["v=DKIM1; k=ed25519; p=abc"], 0⟩
  else ⟨.error (.nameNotFound name.text), 0⟩

/-- Each of these falls just short of a record. -/
def nearMisses : List String :=
  ["v=spf10 -all", "v=DMARC10; p=none", "v=DKIM1 p=abc"]

def crowded : List String → List String
  | [] => nearMisses
  | text :: rest => nearMisses ++ text :: crowded rest

def crowdedZone : Resolver := fun name =>
  { tidyZone name with texts := (tidyZone name).texts.map crowded }

theorem SameRecords.nearMisses_append {texts others : List String}
    (same : SameRecords texts others) : SameRecords (nearMisses ++ texts) others :=
  .left (by decide +kernel) (.left (by decide +kernel) (.left (by decide +kernel) same))

theorem crowded_sameRecords (texts : List String) : SameRecords (crowded texts) texts := by
  induction texts with
  | nil => exact SameRecords.none.nearMisses_append
  | cons text rest ih => exact (SameRecords.shared text ih).nearMisses_append

theorem crowdedZone_alike : crowdedZone.Alike tidyZone := by
  intro name
  refine ⟨rfl, ?_⟩
  unfold crowdedZone
  cases (tidyZone name).texts with
  | error failure => exact Or.inl rfl
  | ok texts => exact Or.inr ⟨_, _, rfl, rfl, crowded_sameRecords texts⟩

theorem crowdedZone_ignores_unrelated :
    crowdedZone.Alike tidyZone ∧
    audit crowdedZone "a.example" { selectors := ["s1"] } =
      audit tidyZone "a.example" { selectors := ["s1"] } ∧
    ∃ found, audit tidyZone "a.example" { selectors := ["s1"] } = .ok found ∧
      found.1.isFullyValid = true ∧ found.2.map (·.text) = ["a.example", "_dmarc.a.example",
        "s1._domainkey.a.example", "_dmarc.a.example"] := by
  obtain ⟨found, run, holds⟩ := exists_ok_of_any
    (audit tidyZone "a.example" { selectors := ["s1"] })
    (fun found => found.1.isFullyValid = true ∧ found.2.map (·.text) = ["a.example",
      "_dmarc.a.example", "s1._domainkey.a.example", "_dmarc.a.example"]) (by decide +kernel)
  exact ⟨crowdedZone_alike,
    audit_ignores_unrelated crowdedZone tidyZone crowdedZone_alike "a.example" _, found, run,
    of_decide_eq_true holds⟩

end SenderAudit
