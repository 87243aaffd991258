import SenderAudit.Proofs.AuditLookups
import SenderAudit.Proofs.NameGrammar
import SenderAudit.Proofs.Reports
import SenderAudit.Proofs.Spf.Course

/-!
Reports and spellings. A text that is read as a name is put into the form of names first, and
that form is read as it stands. So each check, which reads its domain anew, is about the same
name, and texts that denote one name have one report.
-/
namespace SenderAudit

namespace Spf

theorem evaluate_domain (resolver : Resolver) (limits : Limits) (name : DomainName) :
    (evaluate resolver limits name.text).1.domain = name.text := by
  have run := evaluateFrom_eq resolver limits name.text 0 [] 0
  rw [ofText_text] at run
  exact visit_domain resolver limits _ [] none name _ _ _ run

end Spf

namespace Dkim

theorem assess_domain (o : Outcome) (name : DomainName)
    (answer : Except LookupFailure (List String)) : (assess o name answer).domain = o.domain := by
  cases answer with
  | error failure => rfl
  | ok answers =>
      cases found : findRecord? answers with
      | none =>
          rw [assess, found]
          rfl
      | some record =>
          rw [assess, found]
          simp only [assessRecord]
          split <;> rfl

theorem probe_domain (resolver : Resolver) (domain selector : String) :
    (probe resolver domain selector).1.domain = domain := by
  simp only [probe]
  split
  · rfl
  · split
    · rfl
    · rw [assess_domain]

theorem probeAll_domain (resolver : Resolver) (domain : String) (selectors : List String) :
    ∀ key ∈ (probeAll resolver domain selectors).1, key.domain = domain := by
  intro key isKey
  rw [probeAll, List.map_map] at isKey
  obtain ⟨selector, _, rfl⟩ := List.mem_map.mp isKey
  exact probe_domain resolver domain selector

end Dkim

namespace Dmarc

theorem readPolicy_domain (o : Outcome) (value : Option (List Char)) :
    (readPolicy o value).domain = o.domain := by
  unfold readPolicy
  split
  · rfl
  · split <;> rfl

theorem assess_domain (o : Outcome) (name : DomainName)
    (answer : Except LookupFailure (List String)) : (assess o name answer).domain = o.domain := by
  unfold assess
  split
  · rfl
  · split
    · rfl
    · rw [readPolicy_domain]
      rfl

theorem check_domain (resolver : Resolver) (domain : String) :
    (check resolver domain).1.domain = domain := by
  simp only [check]
  split
  · rfl
  · rw [assess_domain]

end Dmarc

structure Report.IsAbout (r : Report) (name : DomainName) : Prop where
  whole : r.domain = name
  spf : r.spf.domain = name.text
  dkim : ∀ key ∈ r.dkim, key.domain = name.text
  dmarc : r.dmarc.domain = name.text

theorem reportOn_isAbout (resolver : Resolver) (name : DomainName) (options : AuditOptions) :
    (reportOn resolver name options).1.IsAbout name where
  whole := rfl
  spf := Spf.evaluate_domain resolver options.limits name
  dkim := Dkim.probeAll_domain resolver name.text options.selectors
  dmarc := Dmarc.check_domain resolver name.text

/-- Reading puts a text into the form of names, and reading again changes nothing. In every
zone the text, its canonical form and any other text with that form have one report, all of
it about the name, with the same lookups. -/
theorem audit_of_canonical (s : String) (name : DomainName)
    (isName : DomainName.parse s = .ok name) :
    DomainName.ascii? (DomainName.core s) = some name.text.toList ∧
      DomainName.IsWellFormed name.text ∧
      DomainName.parse name.text = .ok name ∧
      ∀ resolver options, ∃ report names, report.IsAbout name ∧
        audit resolver s options = .ok (report, names) ∧
        audit resolver name.text options = .ok (report, names) ∧
        ∀ t, DomainName.parse t = .ok name → audit resolver t options = .ok (report, names) := by
  refine ⟨((DomainName.parse_ok_iff s name).mp isName).2, name.isWellFormed, name.parse_text, ?_⟩
  intro resolver options
  have same : ∀ t, DomainName.parse t = .ok name →
      audit resolver t options = .ok (reportOn resolver name options) :=
    fun t denotes => audit_eq_reportOn resolver t options name denotes
  exact ⟨_, _, reportOn_isAbout resolver name options, same s isName,
    same name.text name.parse_text, same⟩

theorem plainName_audit_of_canonical :
    (DomainName.parse " A.Example. " = .ok plainName ∧
      DomainName.parse "a.EXAMPLE" = .ok plainName) ∧
    DomainName.ascii? (DomainName.core " A.Example. ") = some plainName.text.toList ∧
    DomainName.IsWellFormed plainName.text ∧
    DomainName.parse plainName.text = .ok plainName ∧
    ∃ report names, report.IsAbout plainName ∧
      audit plainZone " A.Example. " plainOptions = .ok (report, names) ∧
      audit plainZone "a.example" plainOptions = .ok (report, names) ∧
      audit plainZone "a.EXAMPLE" plainOptions = .ok (report, names) := by
  have denotes : DomainName.parse " A.Example. " = .ok plainName := by decide +kernel
  have denotes' : DomainName.parse "a.EXAMPLE" = .ok plainName := by decide +kernel
  obtain ⟨ascii, form, again, audits⟩ := audit_of_canonical " A.Example. " plainName denotes
  obtain ⟨report, names, about, first, second, all⟩ := audits plainZone plainOptions
  exact ⟨⟨denotes, denotes'⟩, ascii, form, again, report, names, about, first, second,
    all "a.EXAMPLE" denotes'⟩

end SenderAudit
