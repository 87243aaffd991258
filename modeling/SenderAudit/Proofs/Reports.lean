import SenderAudit.Audit
import SenderAudit.Proofs.CanonicalName

/-!
What an audit reports. A domain counts only for the name that it denotes: the three checks
are run on that name, and the score is made from what they find.
-/
namespace SenderAudit

def reportOn (resolver : Resolver) (name : DomainName) (options : AuditOptions) :
    Report × List DomainName :=
  let evaluated := Spf.evaluate resolver options.limits name.text
  let probed := Dkim.probeAll resolver name.text options.selectors
  let checked := Dmarc.check resolver name.text
  ({ domain := name
     spf := evaluated.1
     dkim := probed.1
     dmarc := checked.1
     evidence :=
      { spf := .of evaluated.1
        dkim := probed.1.map .of
        dmarc := .of checked.1
        maxIncludes := options.limits.maxIncludes } },
    evaluated.2.queried ++ probed.2 ++ checked.2.toList)

section

variable (resolver : Resolver) (domain : String) (options : AuditOptions)

theorem audit_eq_reportOn (name : DomainName) (isName : DomainName.parse domain = .ok name) :
    audit resolver domain options = .ok (reportOn resolver name options) := by
  rw [audit, LookupFailure.parseName, isName]
  rfl

theorem audit_eq_refusal (fault : DomainName.Fault)
    (noName : DomainName.parse domain = .error fault) :
    audit resolver domain options = .error ⟨.ofName domain fault⟩ := by
  rw [audit, LookupFailure.parseName, noName]
  rfl

/-- An audit that comes to a report comes to the one on the name of the domain. -/
theorem audit_ok_iff (found : Report × List DomainName) :
    audit resolver domain options = .ok found ↔
      ∃ name, DomainName.parse domain = .ok name ∧ reportOn resolver name options = found := by
  cases parsed : DomainName.parse domain with
  | error fault =>
      rw [audit_eq_refusal resolver domain options fault parsed]
      simp
  | ok name =>
      rw [audit_eq_reportOn resolver domain options name parsed]
      simp

end

-- How a closed audit is read off by evaluation.
theorem exists_ok_of_any {ε α : Type} (result : Except ε α) (test : α → Bool)
    (passes : result.toOption.any test = true) : ∃ found, result = .ok found ∧ test found = true := by
  cases result with
  | error e => cases passes
  | ok found => exact ⟨found, rfl, passes⟩

end SenderAudit
