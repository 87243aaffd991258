import SenderAudit.Proofs.Reports
import SenderAudit.Proofs.Spf.Budget
import SenderAudit.Proofs.Spf.ChildRuns
import SenderAudit.Proofs.Spf.LookupCount

/-!
The points for lookups. An evaluation keeps its budget, and the count that is scored leaves
out the root's own lookup, so the score never finds the budget exceeded and never says so.
-/
namespace SenderAudit

namespace Spf

theorem evaluate_followed_le (resolver : Resolver) (limits : Limits) (domain : String) :
    (evaluate resolver limits domain).1.lookups - 1 ≤ limits.maxIncludes := by
  have run := evaluateFrom_eq resolver limits domain 0 [] 0
  have paid := visit_paid resolver limits (limits.maxDepth + 1 - 0) [] none (.ofText domain)
    { spent := 0 }
  rw [run] at paid
  have nodes := paid.nodes _ rfl
  have bounded := paid.bounded (Nat.zero_le _)
  have counted := lookups_eq_countP (evaluateFrom_origin resolver limits domain 0 [] 0)
  have atMost := List.countP_le_length (p := (·.parsed.isSome))
    (l := (evaluateFrom resolver limits domain 0 [] 0).1.nodes)
  rw [Outcome.nodes_length, ← counted] at atMost
  rw [evaluate]
  dsimp only at nodes bounded
  omega

theorem evaluate_unpublished (resolver : Resolver) (limits : Limits) (name : DomainName)
    (unpublished : (evaluate resolver limits name.text).1.record = none) :
    ∃ p : Problem, (evaluate resolver limits name.text).1.errors.head? = some p.message ∧
      (p = .timedOut limits.timeoutMs ∨ (∃ failure, p = .noRecord failure) ∨
        ∃ failure, p = .lookupFailed failure) := by
  have run := evaluateFrom_eq resolver limits name.text 0 [] 0
  rw [ofText_text] at run
  rw [evaluate] at unpublished ⊢
  generalize evaluateFrom resolver limits name.text 0 [] 0 = result at run unpublished ⊢
  obtain ⟨o, after⟩ := result
  rcases visit_cases resolver limits _ [] none _ _ after o run with
    ⟨p, refused, _⟩ | ⟨below, _, _, ⟨⟩, ⟨_, rfl⟩ | ⟨answered, _, course⟩⟩
  · have admitted := refusal?_eq_none limits limits.maxDepth [] 0 (.ofName name) name
      (by simp) (Nat.zero_le _) rfl
    rw [Nat.sub_zero, admitted] at refused
    cases refused
  · exact ⟨_, rfl, Or.inl rfl⟩
  · have isText : o.record = firstText (resolver name).texts := course.keeps.2.1
    rw [isText] at unpublished
    obtain ⟨unread, p, only, kind⟩ := unpublished_problem name _ unpublished
    have noRecord : recordAt resolver name = none := unread
    rw [noRecord] at course
    cases course
    refine ⟨p, ?_, Or.inr kind⟩
    rw [Outcome.errors, reading, only]
    rfl

end Spf

namespace Scorecard

open Spf

/-- The first words of every reason that does not speak of the budget. -/
def otherWords : List String :=
  ["no SPF", "DNS lookup", "SPF evaluation timed", "SPF ends", "SPF record", "?all", "~all"]

def BeginsOtherwise (text : String) : Prop :=
  ∃ words ∈ otherWords, words.toList <+: text.toList

theorem begins_append (words start rest : String) (begins : words.toList <+: start.toList) :
    words.toList <+: (start ++ rest).toList := by
  rw [String.toList_append]
  exact begins.trans (List.prefix_append _ _)

theorem beginsOtherwise_append (start rest : String) (otherwise : BeginsOtherwise start) :
    BeginsOtherwise (start ++ rest) := by
  obtain ⟨words, isOther, begins⟩ := otherwise
  exact ⟨words, isOther, begins_append words start rest begins⟩

theorem overBudget_reason_begins (followed limit : Nat) :
    "SPF evaluation follows".toList <+: (SpfAdvice.overBudget followed limit).reason.toList := by
  unfold SpfAdvice.reason
  simp only [toString, String.append_assoc]
  exact begins_append _ _ _ (by decide +kernel)

-- Two texts differ if neither of their first words goes on as the other's.
theorem ne_of_beginsOtherwise (text : String) (otherwise : BeginsOtherwise text)
    (followed limit : Nat) : text ≠ (SpfAdvice.overBudget followed limit).reason := by
  rintro rfl
  obtain ⟨words, isOther, begins⟩ := otherwise
  have apart : ∀ words ∈ otherWords, ¬ words.toList <+: "SPF evaluation follows".toList ∧
      ¬ "SPF evaluation follows".toList <+: words.toList := by decide +kernel
  rcases List.prefix_or_prefix_of_prefix begins (overBudget_reason_begins followed limit) with
    within | beyond
  · exact (apart words isOther).1 within
  · exact (apart words isOther).2 beyond

theorem unpublished_beginsOtherwise (p : Problem)
    (kind : (∃ budgetMs, p = .timedOut budgetMs) ∨ (∃ failure, p = .noRecord failure) ∨
      ∃ failure, p = .lookupFailed failure) : BeginsOtherwise p.message := by
  rcases kind with ⟨budgetMs, rfl⟩ | ⟨_ | failure, rfl⟩ | ⟨failure, rfl⟩
  · unfold Problem.message
    simp only [toString, String.append_assoc]
    exact beginsOtherwise_append _ _ ⟨"SPF evaluation timed", by decide, by decide +kernel⟩
  · exact ⟨"no SPF", by decide, by decide +kernel⟩
  · unfold Problem.message
    simp only [toString, String.append_assoc]
    exact beginsOtherwise_append _ _ ⟨"no SPF", by decide, by decide +kernel⟩
  · exact beginsOtherwise_append _ _ ⟨"DNS lookup", by decide, by decide +kernel⟩

theorem reason_beginsOtherwise (advice : SpfAdvice)
    (notBudget : ∀ followed limit, advice ≠ .overBudget followed limit)
    (errors : ∀ error, advice = .unpublished (some error) → BeginsOtherwise error) :
    BeginsOtherwise advice.reason := by
  cases advice with
  | unpublished error =>
      cases error with
      | none => exact ⟨"no SPF", by decide, by decide +kernel⟩
      | some error => exact errors error rfl
  | passesAll => exact ⟨"SPF ends", by decide, by decide +kernel⟩
  | invalid error =>
      exact beginsOtherwise_append _ _ ⟨"SPF record", by decide, by decide +kernel⟩
  | noEnding => exact ⟨"SPF record", by decide, by decide +kernel⟩
  | neutral => exact ⟨"?all", by decide, by decide +kernel⟩
  | softFail => exact ⟨"~all", by decide, by decide +kernel⟩
  | overBudget followed limit => exact absurd rfl (notBudget followed limit)
  | sound => exact ⟨"SPF record", by decide, by decide +kernel⟩

namespace Evidence

variable (e : Evidence)

theorem spfAdvice_ne_overBudget (within : e.withinBudget = true) (followed limit : Nat) :
    e.spfAdvice ≠ .overBudget followed limit := by
  unfold spfAdvice
  rw [within]
  split
  · rintro ⟨⟩
  · split
    · rintro ⟨⟩
    · split
      · rintro ⟨⟩
      · split <;> rintro ⟨⟩

theorem spfAdvice_unpublished (error : Option String) (advice : e.spfAdvice = .unpublished error) :
    e.spf.published = false ∧ e.spf.firstError = error := by
  unfold spfAdvice at advice
  split at advice
  · rename_i unpublished
    injection advice with same
    exact ⟨by simpa using unpublished, same⟩
  · split at advice
    · cases advice
    · split at advice
      · cases advice
      · split at advice <;> first | cases advice | (split at advice <;> cases advice)

theorem details_lookup (c : Criterion) : e.details.lookup c.key = some (e.points c) := by
  cases c <;> rfl

theorem points_spfLookups (within : e.withinBudget = true) :
    e.points .spfLookups = if e.spf.valid then 5 else 0 := by
  rw [points, award, within, Bool.and_true]

end Evidence

end Scorecard

theorem audit_evaluated (resolver : Resolver) (domain : String) (options : AuditOptions)
    (report : Report) (names : List DomainName)
    (audited : audit resolver domain options = .ok (report, names)) :
    report.spf = (Spf.evaluate resolver options.limits report.domain.text).1 ∧
      report.evidence.spf = .of report.spf ∧
      report.evidence.maxIncludes = options.limits.maxIncludes := by
  obtain ⟨name, _, made⟩ := (audit_ok_iff resolver domain options _).mp audited
  cases made
  exact ⟨rfl, rfl, rfl⟩

/-- The points for lookups are those for a valid record: an audit's evaluation keeps the
limit on includes, and the reason for its points is never that it was passed. -/
theorem audit_keeps_lookup_budget (resolver : Resolver) (domain : String)
    (options : AuditOptions) (report : Report) (names : List DomainName)
    (audited : audit resolver domain options = .ok (report, names)) :
    report.evidence.details.lookup "spf.lookups" = some (if report.spf.valid then 5 else 0) ∧
      report.spf.lookups - 1 ≤ options.limits.maxIncludes ∧
      ∀ followed limit, report.evidence.reason .spf ≠
        (Scorecard.SpfAdvice.overBudget followed limit).reason := by
  obtain ⟨evaluated, facts, limit⟩ :=
    audit_evaluated resolver domain options report names audited
  have kept : report.spf.lookups - 1 ≤ options.limits.maxIncludes := by
    rw [evaluated]
    exact Spf.evaluate_followed_le resolver options.limits _
  have within : report.evidence.withinBudget = true := by
    rw [Scorecard.Evidence.withinBudget, Scorecard.Evidence.followed, facts, limit]
    exact decide_eq_true kept
  refine ⟨?_, kept, Scorecard.ne_of_beginsOtherwise _
    (Scorecard.reason_beginsOtherwise _ (report.evidence.spfAdvice_ne_overBudget within) ?_)⟩
  · have awarded := report.evidence.details_lookup .spfLookups
    rw [report.evidence.points_spfLookups within, facts] at awarded
    exact awarded
  · intro error advice
    obtain ⟨unpublished, first⟩ := report.evidence.spfAdvice_unpublished _ advice
    rw [facts] at unpublished first
    have noRecord : report.spf.record = none := by
      simpa [Scorecard.SpfFacts.of] using unpublished
    rw [evaluated] at noRecord
    obtain ⟨p, said, kind⟩ := Spf.evaluate_unpublished resolver options.limits _ noRecord
    have isFirst : some error = some p.message := by
      rw [← said, ← evaluated, ← first]
      rfl
    cases isFirst
    exact Scorecard.unpublished_beginsOtherwise p (kind.imp_left (⟨_, ·⟩))

def threeStepZone : Resolver := fun name =>
  if name.text = "a.example" then
    ⟨.ok ["v=spf1 include:b.example include:c.example redirect=d.example"], 3⟩
  else if name.text = "d.example" then ⟨.ok ["v=spf1 mx -all"], 0⟩
  else if name.text = "b.example" ∨ name.text = "c.example" then ⟨.ok ["v=spf1 a"], 1⟩
  else ⟨.error (.nameNotFound name.text), 0⟩

-- The evaluation spends the limit on includes and nothing beyond it.
theorem threeStepZone_keeps_lookup_budget :
    ∃ report names,
      audit threeStepZone "A.example." { selectors := ["mail"], limits := ⟨3, 3, 9⟩ } =
          .ok (report, names) ∧
        report.spf.valid = true ∧ report.spf.lookups = 4 ∧
        report.evidence.details.lookup "spf.lookups" = some (if report.spf.valid then 5 else 0) ∧
        report.spf.lookups - 1 ≤ 3 ∧
        ∀ followed limit, report.evidence.reason .spf ≠
          (Scorecard.SpfAdvice.overBudget followed limit).reason := by
  have spent : ((audit threeStepZone "A.example."
      { selectors := ["mail"], limits := ⟨3, 3, 9⟩ }).toOption.any fun (report, _) =>
        report.spf.valid ∧ report.spf.lookups = 4) = true := by
    decide +kernel
  cases result : audit threeStepZone "A.example."
      { selectors := ["mail"], limits := ⟨3, 3, 9⟩ } with
  | error failure =>
      rw [result] at spent
      cases spent
  | ok found =>
      obtain ⟨report, names⟩ := found
      rw [result] at spent
      obtain ⟨valid, four⟩ := of_decide_eq_true spent
      exact ⟨report, names, rfl, valid, four, audit_keeps_lookup_budget threeStepZone _ _ report
        names result⟩

end SenderAudit
