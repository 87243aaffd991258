import SenderAudit.Proofs.PublishedNames
import SenderAudit.Proofs.Reports
import SenderAudit.Proofs.Spf.Budget
import SenderAudit.Proofs.Spf.ChildRuns
import SenderAudit.Proofs.Spf.LookupLog

/-!
The lookups of an audit: those of the evaluation, then one for each selector that has a name,
then the one for the policy of the domain.
-/
namespace SenderAudit

namespace Spf

theorem evaluate_queried (resolver : Resolver) (limits : Limits) (name : DomainName) :
    (evaluate resolver limits name.text).2.queried.head? = some name ∧
      (evaluate resolver limits name.text).2.queried.length ≤ 1 + limits.maxIncludes := by
  have run := evaluateFrom_eq resolver limits name.text 0 [] 0
  have asked := visit_asks_first resolver limits limits.maxDepth [] none (.ofName name) {} name
    List.not_mem_nil (Nat.zero_le _) rfl
  have paid := visit_paid resolver limits (limits.maxDepth + 1) [] none (.ofName name) {}
  rw [ofText_text, Nat.sub_zero] at run
  rw [run] at asked paid
  obtain ⟨later, isLog⟩ := asked
  obtain ⟨_, bounded, lookups, _⟩ := paid
  constructor
  · rw [evaluate, ← isLog]
    rfl
  · have atMost := bounded (Nat.zero_le _)
    rw [evaluate]
    dsimp only [List.length_nil] at lookups atMost
    omega

end Spf

theorem audit_of_name (resolver : Resolver) (domain : String) (options : AuditOptions)
    (name : DomainName) (isName : DomainName.parse domain = .ok name) :
    ∃ report, audit resolver domain options = .ok (report,
        (Spf.evaluate resolver options.limits name.text).2.queried ++
          (Dkim.probeAll resolver name.text options.selectors).2 ++
          (Dmarc.check resolver name.text).2.toList) ∧
      report.dkim = (Dkim.probeAll resolver name.text options.selectors).1 ∧
      report.evidence.dkim = report.dkim.map .of := by
  exact ⟨_, audit_eq_reportOn resolver domain options name isName, rfl, rfl⟩

/-- The lookups of an audit. A domain that is no name is refused, whatever is published. For
a name there are those of the evaluation, which starts with the name itself, then one for
each selector that has a key's name and one for the policy, all of them of names that are
read as they stand. -/
theorem audit_lookups (resolver : Resolver) (domain : String) (options : AuditOptions) :
    (∀ fault, DomainName.parse domain = .error fault →
      audit resolver domain options = .error ⟨.ofName domain fault⟩) ∧
    (∀ name, DomainName.parse domain = .ok name → ∃ report names,
      audit resolver domain options = .ok (report, names) ∧
      names.map (·.text) =
        (Spf.evaluate resolver options.limits name.text).2.queried.map (·.text) ++
          options.selectors.filterMap (Dkim.keyText? name) ++
          (Dmarc.policyText? name).toList ∧
      (Spf.evaluate resolver options.limits name.text).2.queried.head? = some name ∧
      (∀ asked ∈ names, DomainName.parse asked.text = .ok asked) ∧
      names.length ≤ 2 + options.limits.maxIncludes + options.selectors.length) := by
  constructor
  · intro fault refused
    rw [audit, LookupFailure.parseName, refused]
    rfl
  · intro name isName
    have keys := Dkim.probeAll_texts resolver name options.selectors
    have policy := Dmarc.check_text resolver name
    obtain ⟨first, evaluated⟩ := Spf.evaluate_queried resolver options.limits name
    obtain ⟨report, run, _⟩ := audit_of_name resolver domain options name isName
    have texts : ((Spf.evaluate resolver options.limits name.text).2.queried ++
          (Dkim.probeAll resolver name.text options.selectors).2 ++
          (Dmarc.check resolver name.text).2.toList).map (·.text) =
        (Spf.evaluate resolver options.limits name.text).2.queried.map (·.text) ++
          options.selectors.filterMap (Dkim.keyText? name) ++
          (Dmarc.policyText? name).toList := by
      rw [List.map_append, List.map_append, keys, ← Option.toList_map, policy]
    refine ⟨report, _, run, texts, first, fun asked _ => asked.parse_text, ?_⟩
    have fewKeys : (Dkim.probeAll resolver name.text options.selectors).2.length ≤
        options.selectors.length := by
      rw [← List.length_map, keys]
      exact List.length_filterMap_le _ _
    have onePolicy : (Dmarc.check resolver name.text).2.toList.length ≤ 1 :=
      Option.length_toList_le
    rw [List.length_append, List.length_append]
    omega

def plainZone : Resolver := fun name =>
  if name.text = "a.example" then ⟨.ok ["v=spf1 include:b.example -all"], 2⟩
  else if name.text = "b.example" then ⟨.ok ["v=spf1 mx"], 0⟩
  else ⟨.error (.nameNotFound name.text), 1⟩

def plainName : DomainName where
  text := "a.example"
  canonical := DomainName.fault?_eq_none_iff.mp (by decide +kernel)

/-- Of these selectors the second is no label and the third two. -/
def plainOptions : AuditOptions where
  selectors := [" S1 ", "x-", "s.1", "_2"]

theorem plainZone_lookups :
    (DomainName.parse "a..b" = .error .emptyLabel ∧
      audit plainZone "a..b" plainOptions = .error ⟨.ofName "a..b" .emptyLabel⟩) ∧
    DomainName.parse "A.example. " = .ok plainName ∧
    ∃ report names, audit plainZone "A.example. " plainOptions = .ok (report, names) ∧
      names.map (·.text) = ["a.example", "b.example", "s1._domainkey.a.example",
        "_2._domainkey.a.example", "_dmarc.a.example"] ∧
      (Spf.evaluate plainZone plainOptions.limits plainName.text).2.queried.head? =
        some plainName ∧
      (∀ asked ∈ names, DomainName.parse asked.text = .ok asked) ∧
      names.length ≤ 2 + 10 + 4 := by
  have refused : DomainName.parse "a..b" = .error .emptyLabel := by decide +kernel
  have isName : DomainName.parse "A.example. " = .ok plainName := by decide +kernel
  obtain ⟨report, names, run, texts, lookups⟩ :=
    (audit_lookups plainZone "A.example. " plainOptions).2 plainName isName
  have spelled :
      (Spf.evaluate plainZone plainOptions.limits plainName.text).2.queried.map (·.text) ++
        plainOptions.selectors.filterMap (Dkim.keyText? plainName) ++
        (Dmarc.policyText? plainName).toList =
      ["a.example", "b.example", "s1._domainkey.a.example", "_2._domainkey.a.example",
        "_dmarc.a.example"] := by decide +kernel
  exact ⟨⟨refused, (audit_lookups plainZone "a..b" plainOptions).1 _ refused⟩, isName, report,
    names, run, texts.trans spelled, lookups⟩

end SenderAudit
