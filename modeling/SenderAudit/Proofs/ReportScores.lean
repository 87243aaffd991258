import SenderAudit.Proofs.LookupPoints
import SenderAudit.Proofs.Points
import SenderAudit.Proofs.Reports

/-!
The scores of reports. The checks find a record wherever they call one valid, keep the budget
of lookups, and know three policies only; with that, thirty points in each category are what
a domain gets for having nothing to change, and validity is worth its share of them.
-/
namespace SenderAudit

namespace Spf

theorem evaluate_published (resolver : Resolver) (limits : Limits) (name : DomainName)
    (valid : (evaluate resolver limits name.text).1.valid = true) :
    (evaluate resolver limits name.text).1.record.isSome = true := by
  cases published : (evaluate resolver limits name.text).1.record with
  | some text => rfl
  | none =>
      obtain ⟨p, first, _⟩ := evaluate_unpublished resolver limits name published
      have clean := (valid_iff_problems_nil
        (evaluateFrom_origin resolver limits name.text 0 [] 0)).mp valid
      rw [Outcome.errors, evaluate, clean] at first
      cases first

end Spf

namespace Dmarc

theorem readPolicy_valid (o : Outcome) (value : Option (List Char))
    (valid : (readPolicy o value).valid = true) :
    (readPolicy o value).record = o.record ∧ ∃ p, (readPolicy o value).policy = some p := by
  cases value with
  | none => cases valid
  | some word =>
      cases read : Policy.ofWord? word with
      | none =>
          rw [readPolicy, read] at valid
          cases valid
      | some p =>
          rw [readPolicy, read]
          exact ⟨rfl, p, rfl⟩

theorem check_valid (resolver : Resolver) (domain : String)
    (valid : (check resolver domain).1.valid = true) :
    (check resolver domain).1.record.isSome = true ∧
      ∃ p, (check resolver domain).1.policy = some p := by
  unfold check at valid ⊢
  cases named : policyName domain with
  | error failure =>
      rw [named] at valid
      cases valid
  | ok name =>
      rw [named] at valid
      dsimp only at valid ⊢
      unfold assess at valid ⊢
      split at valid
      · cases valid
      · split at valid
        · cases valid
        · obtain ⟨kept, p, isPolicy⟩ := readPolicy_valid _ _ valid
          exact ⟨by rw [kept]; rfl, p, isPolicy⟩

end Dmarc

namespace Scorecard.Evidence

/-- What the checks make sure of, whatever is published. -/
structure Consistent (e : Evidence) : Prop where
  spf : e.spf.valid = true → e.spf.published = true
  budget : e.withinBudget = true
  dmarc : e.dmarc.valid = true →
    e.dmarc.published = true ∧ ∃ p : Dmarc.Policy, e.dmarc.policy = some p.word

variable {e : Evidence}

-- The last case of the advice is meant for one policy, and there is no other left.
theorem Consistent.dmarc_recommendation (consistent : e.Consistent)
    (advised : e.recommendation .dmarc = "no change needed") : e.score .dmarc = 30 := by
  have sound := (DmarcAdvice.recommendation_eq_iff _).mp advised
  obtain ⟨published, reported, present, notNone, notQuarantine⟩ := e.dmarcAdvice_sound sound
  have rejects : e.policy = some "reject" := by
    cases valid : e.dmarc.valid with
    | false => exact absurd (by rw [policy, valid]; rfl) present
    | true =>
        obtain ⟨p, isPolicy⟩ := (consistent.dmarc valid).2
        have inForce : e.policy = some p.word := by rw [policy, valid]; exact isPolicy
        cases p with
        | none => exact absurd inForce notNone
        | quarantine => exact absurd inForce notQuarantine
        | reject => exact inForce
  apply (e.score_eq_thirty_iff .dmarc).mpr
  intro criterion isDmarc
  cases criterion with
  | dmarcPublished => exact published
  | dmarcPolicy => exact rejects
  | dmarcReporting => exact reported
  | _ => cases isDmarc

end Scorecard.Evidence

namespace Report

structure IsScored (r : Report) : Prop where
  spf : r.evidence.spf = .of r.spf
  dkim : r.evidence.dkim = r.dkim.map .of
  dmarc : r.evidence.dmarc = .of r.dmarc

structure IsExemplary (r : Report) : Prop where
  spf : r.spf.valid = true ∧ r.spf.effective = some .fail
  dkim : 2 ≤ r.dkim.countP (·.valid) ∧ ∃ key ∈ r.dkim, key.valid = true ∧ key.hasStrongKey = true
  dmarc : r.dmarc.valid = true ∧ r.dmarc.policy = some .reject ∧ r.dmarc.rua ≠ []

namespace IsScored

variable {r : Report} (scored : r.IsScored)

include scored

theorem spf_valid : r.evidence.spf.valid = r.spf.valid := by
  rw [scored.spf]
  rfl

theorem spf_ending : r.evidence.spf.qualifier = r.spf.effective := by
  rw [scored.spf]
  rfl

theorem dmarc_valid : r.evidence.dmarc.valid = r.dmarc.valid := by
  rw [scored.dmarc]
  rfl

theorem validKeys_length : r.evidence.validKeys.length = r.dkim.countP (·.valid) := by
  rw [Scorecard.Evidence.validKeys, ← List.countP_eq_length_filter, scored.dkim, List.countP_map]
  rfl

theorem hasStrongKey_iff : r.evidence.hasStrongKey = true ↔
    ∃ key ∈ r.dkim, key.valid = true ∧ key.hasStrongKey = true := by
  rw [Scorecard.Evidence.hasStrongKey, Scorecard.Evidence.validKeys, scored.dkim, List.any_filter,
    List.any_map, List.any_eq_true]
  simp only [Function.comp_apply, Bool.and_eq_true]
  rfl

theorem validKeys_eq_nil (noKey : ∀ key ∈ r.dkim, key.valid = false) :
    r.evidence.validKeys = [] := by
  rw [← List.length_eq_zero_iff, scored.validKeys_length, List.countP_eq_zero]
  intro key isKey
  rw [noKey key isKey]
  exact Bool.false_ne_true

theorem rejects_iff : r.evidence.policy = some "reject" ↔
    r.dmarc.valid = true ∧ r.dmarc.policy = some .reject := by
  have isWord : r.dmarc.policy.map (·.word) = some "reject" ↔ r.dmarc.policy = some .reject := by
    rcases r.dmarc.policy with _ | _ | _ | _ <;> decide
  have inForce : r.evidence.policy =
      if r.dmarc.valid then r.dmarc.policy.map (·.word) else none := by
    rw [Scorecard.Evidence.policy, scored.dmarc]
    rfl
  rw [inForce, ← isWord]
  cases r.dmarc.valid <;> simp

theorem reported_iff : r.evidence.dmarc.reported = true ↔ r.dmarc.rua ≠ [] := by
  rw [scored.dmarc]
  simp [Scorecard.DmarcFacts.of]

theorem earns_all_iff (consistent : r.evidence.Consistent) :
    (∀ criterion, r.evidence.Earns criterion) ↔ r.IsExemplary := by
  constructor
  · intro earns
    have valid : r.spf.valid = true := scored.spf_valid.symm.trans (earns .spfValid)
    have ending : r.spf.effective = some .fail := scored.spf_ending.symm.trans (earns .spfEnding)
    have several : 2 ≤ r.dkim.countP (·.valid) := scored.validKeys_length ▸ earns .severalKeys
    have strong := scored.hasStrongKey_iff.mp (earns .keyStrength)
    have rejects := scored.rejects_iff.mp (earns .dmarcPolicy)
    have reported := scored.reported_iff.mp (earns .dmarcReporting)
    exact ⟨⟨valid, ending⟩, ⟨several, strong⟩, rejects.1, rejects.2, reported⟩
  · rintro ⟨⟨valid, ending⟩, ⟨several, strong⟩, sound, rejects, reported⟩ criterion
    have isValid := scored.spf_valid.trans valid
    have isSound := scored.dmarc_valid.trans sound
    have two : 2 ≤ r.evidence.validKeys.length := scored.validKeys_length ▸ several
    cases criterion with
    | spfPublished => exact consistent.spf isValid
    | spfValid => exact isValid
    | spfEnding => exact scored.spf_ending.trans ending
    | spfLookups => exact ⟨isValid, consistent.budget⟩
    | keyPublished => exact List.ne_nil_of_length_pos (Nat.lt_of_succ_le (Nat.le_of_succ_le two))
    | keyStrength => exact scored.hasStrongKey_iff.mpr strong
    | severalKeys => exact two
    | dmarcPublished => exact (consistent.dmarc isSound).1
    | dmarcPolicy => exact scored.rejects_iff.mpr ⟨sound, rejects⟩
    | dmarcReporting => exact scored.reported_iff.mpr reported

theorem isFullyValid_iff : r.isFullyValid = true ↔
    r.evidence.spf.valid = true ∧ r.evidence.dmarc.valid = true ∧ r.evidence.validKeys ≠ [] := by
  have matched : r.dkimMatch?.isSome = true ↔ r.evidence.validKeys ≠ [] := by
    rw [dkimMatch?, List.find?_isSome, Scorecard.Evidence.validKeys, scored.dkim, ne_eq,
      List.filter_eq_nil_iff]
    simp [Scorecard.KeyFacts.of]
  rw [isFullyValid, Bool.and_eq_true, Bool.and_eq_true, matched, scored.spf_valid,
    scored.dmarc_valid, and_assoc]

end IsScored

end Report

section Audited

variable {resolver : Resolver} {domain : String} {options : AuditOptions} {report : Report}
  {names : List DomainName} (audited : audit resolver domain options = .ok (report, names))

include audited

theorem audit_scored : report.IsScored := by
  obtain ⟨name, _, made⟩ := (audit_ok_iff resolver domain options _).mp audited
  cases made
  exact ⟨rfl, rfl, rfl⟩

theorem audit_consistent : report.evidence.Consistent := by
  obtain ⟨name, _, made⟩ := (audit_ok_iff resolver domain options _).mp audited
  cases made
  refine ⟨Spf.evaluate_published resolver options.limits name,
    decide_eq_true (Spf.evaluate_followed_le resolver options.limits name.text), ?_⟩
  intro valid
  obtain ⟨published, p, isPolicy⟩ := Dmarc.check_valid resolver name.text valid
  refine ⟨published, p, ?_⟩
  change (Dmarc.check resolver name.text).1.policy.map (·.word) = some p.word
  rw [isPolicy]
  rfl

end Audited

namespace Report

/-- The score of a report and the advice with it: each category has up to thirty points, and
has them all if the advice is to change nothing, for senders only then. -/
structure IsSoundlyScored (r : Report) : Prop where
  range : ∀ c, 0 ≤ r.evidence.score c ∧ r.evidence.score c ≤ 30
  total : r.evidence.total =
    r.evidence.score .spf + r.evidence.score .dkim + r.evidence.score .dmarc
  most : r.evidence.total ≤ 90
  spfAdvice : r.evidence.recommendation .spf = "no change needed" ↔ r.evidence.score .spf = 30
  dkimAdvice : r.evidence.recommendation .dkim = "no change needed" → r.evidence.score .dkim = 30
  dmarcAdvice :
    r.evidence.recommendation .dmarc = "no change needed" → r.evidence.score .dmarc = 30
  perfect : r.evidence.total = 90 ↔ r.IsExemplary

/-- What validity is worth: its share of each category in a fully valid domain, and in any
other as much less as the invalid part would have had at least. -/
structure IsScoredByValidity (r : Report) : Prop where
  full : r.isFullyValid = true → 10 ≤ r.evidence.score .spf ∧ 15 ≤ r.evidence.score .dkim ∧
    10 ≤ r.evidence.score .dmarc ∧ 35 ≤ r.evidence.total
  notFull : r.isFullyValid = false → r.evidence.total ≤ 80
  invalidDmarc : r.dmarc.valid = false → r.evidence.total ≤ 75
  noKey : (∀ key ∈ r.dkim, key.valid = false) → r.evidence.total ≤ 60

end Report

/-- Every audit scores its report soundly, and gives all ninety points to exemplary domains
only. -/
theorem audit_soundly_scored (resolver : Resolver) (domain : String) (options : AuditOptions)
    (report : Report) (names : List DomainName)
    (audited : audit resolver domain options = .ok (report, names)) : report.IsSoundlyScored where
  range := report.evidence.score_range
  total := report.evidence.total_eq
  most := report.evidence.total_le
  spfAdvice := report.evidence.spf_recommendation_iff
  dkimAdvice := report.evidence.dkim_recommendation
  dmarcAdvice := (audit_consistent audited).dmarc_recommendation
  perfect := by
    rw [report.evidence.total_eq_ninety_iff,
      (audit_scored audited).earns_all_iff (audit_consistent audited)]

/-- Has all points, though a key is marked as a trial and the policy covers half of the mail. -/
def exemplaryZone : Resolver := fun name =>
  if name.text = "a.example" then ⟨.ok ["v=spf1 redirect=b.example"], 2⟩
  else if name.text = "b.example" then ⟨.ok ["v=spf1 mx -all"], 0⟩
  else if name.text = "s1._domainkey.a.example" then ⟨.ok ["v=DKIM1; p=abc"], 0⟩
  else if name.text = "s2._domainkey.a.example" then
    ⟨.ok ["v=DKIM1; k=ed25519; t=y; p=abc"], 0⟩
  else if name.text = "_dmarc.a.example" then
    ⟨.ok ["v=DMARC1; p=reject; pct=50; rua=mailto:d@a.example"], 0⟩
  else ⟨.error (.nameNotFound name.text), 0⟩

theorem exemplaryZone_soundly_scored :
    ∃ report names,
      audit exemplaryZone "a.example" { selectors := ["s1", "s2"] } = .ok (report, names) ∧
      (report.evidence.total = 90 ∧
        report.evidence.recommendation .dkim = "remove t=y once signing is verified" ∧
        report.evidence.recommendation .dmarc = "raise pct to 100") ∧
      report.IsSoundlyScored := by
  obtain ⟨⟨report, names⟩, run, holds⟩ := exists_ok_of_any
    (audit exemplaryZone "a.example" { selectors := ["s1", "s2"] })
    (fun found => found.1.evidence.total = 90 ∧
      found.1.evidence.recommendation .dkim = "remove t=y once signing is verified" ∧
      found.1.evidence.recommendation .dmarc = "raise pct to 100") (by decide +kernel)
  exact ⟨report, names, run, of_decide_eq_true holds,
    audit_soundly_scored exemplaryZone "a.example" _ report names run⟩

/-- The validity of a report and its score never contradict each other. -/
theorem audit_scored_by_validity (resolver : Resolver) (domain : String)
    (options : AuditOptions) (report : Report) (names : List DomainName)
    (audited : audit resolver domain options = .ok (report, names)) :
    report.IsScoredByValidity := by
  have scored := audit_scored audited
  have consistent := audit_consistent audited
  have withoutPolicy (invalid : report.evidence.dmarc.valid = false) :
      report.evidence.total ≤ 75 :=
    report.evidence.total_le_of_score_le .dmarc 15 (report.evidence.score_dmarc_invalid invalid)
  have withoutKey (none : report.evidence.validKeys = []) : report.evidence.total ≤ 60 :=
    report.evidence.total_le_of_score_le .dkim 0
      (Int.le_of_eq (report.evidence.score_dkim_none none))
  constructor
  case full =>
    intro full
    obtain ⟨valid, sound, found⟩ := scored.isFullyValid_iff.mp full
    have forSpf := report.evidence.score_spf_valid (consistent.spf valid) valid consistent.budget
    have forDkim := report.evidence.score_dkim_found found
    have forDmarc := report.evidence.score_dmarc_published (consistent.dmarc sound).1
    have total := report.evidence.total_eq
    exact ⟨forSpf, forDkim, forDmarc, by omega⟩
  case notFull =>
    intro notFull
    by_cases valid : report.evidence.spf.valid = true
    · by_cases sound : report.evidence.dmarc.valid = true
      · by_cases found : report.evidence.validKeys = []
        · have few := withoutKey found
          omega
        · rw [scored.isFullyValid_iff.mpr ⟨valid, sound, found⟩] at notFull
          cases notFull
      · have few := withoutPolicy (Bool.eq_false_iff.mpr sound)
        omega
    · exact report.evidence.total_le_of_score_le .spf 20
        (report.evidence.score_spf_invalid (Bool.eq_false_iff.mpr valid))
  case invalidDmarc =>
    intro invalid
    exact withoutPolicy (scored.dmarc_valid.trans invalid)
  case noKey =>
    intro noKey
    exact withoutKey (scored.validKeys_eq_nil noKey)

def barelyValidZone : Resolver := fun name =>
  if name.text = "a.example" then ⟨.ok ["v=spf1 +all"], 0⟩
  else if name.text = "s1._domainkey.a.example" then ⟨.ok ["v=DKIM1; p=abc"], 0⟩
  else if name.text = "_dmarc.a.example" then ⟨.ok ["v=DMARC1; p=none"], 0⟩
  else ⟨.error (.nameNotFound name.text), 0⟩

/-- The exemplary zone but for one category: an include of nothing, keys that are revoked, or
a record without a policy. -/
def flawedZone : Scorecard.Category → Resolver
  | .spf => fun name =>
      if name.text = "a.example" then ⟨.ok ["v=spf1 include:c.example -all"], 0⟩
      else exemplaryZone name
  | .dkim => fun name =>
      if name.text = "s1._domainkey.a.example" ∨ name.text = "s2._domainkey.a.example" then
        ⟨.ok ["v=DKIM1; p="], 0⟩
      else exemplaryZone name
  | .dmarc => fun name =>
      if name.text = "_dmarc.a.example" then ⟨.ok ["v=DMARC1; rua=mailto:d@a.example"], 0⟩
      else exemplaryZone name

def ceiling : Scorecard.Category → Int
  | .spf => 80
  | .dkim => 60
  | .dmarc => 75

-- Each of the bounds is reached.
theorem flawedZone_scored_by_validity :
    (∃ report names, audit barelyValidZone "a.example" { selectors := ["s1"] } =
        .ok (report, names) ∧
      (report.isFullyValid = true ∧ report.evidence.total = 35) ∧ report.IsScoredByValidity) ∧
    ∀ c, ∃ report names, audit (flawedZone c) "a.example" { selectors := ["s1", "s2"] } =
        .ok (report, names) ∧
      (report.isFullyValid = false ∧ report.evidence.total = ceiling c) ∧
        report.IsScoredByValidity := by
  constructor
  · obtain ⟨⟨report, names⟩, run, holds⟩ := exists_ok_of_any
      (audit barelyValidZone "a.example" { selectors := ["s1"] })
      (fun found => found.1.isFullyValid = true ∧ found.1.evidence.total = 35)
      (by decide +kernel)
    exact ⟨report, names, run, of_decide_eq_true holds,
      audit_scored_by_validity barelyValidZone "a.example" _ report names run⟩
  · intro c
    obtain ⟨⟨report, names⟩, run, holds⟩ := exists_ok_of_any
      (audit (flawedZone c) "a.example" { selectors := ["s1", "s2"] })
      (fun found => found.1.isFullyValid = false ∧ found.1.evidence.total = ceiling c)
      (by cases c <;> decide +kernel)
    exact ⟨report, names, run, of_decide_eq_true holds,
      audit_scored_by_validity (flawedZone c) "a.example" _ report names run⟩

end SenderAudit
