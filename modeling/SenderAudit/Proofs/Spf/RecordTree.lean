import SenderAudit.Proofs.Spf.Course

/-!
The tree mirrors the records. The children of a node stand for the includes of its record
in order, and then for its redirect; where one is missing, the node says why. The term in
effect is the record's own, or that of a valid redirect.
-/
namespace SenderAudit.Spf

structure Outcome.Mirrors (limits : Limits) (record : Record) (o : Outcome) : Prop where
  included : o.includes.map (·.domain) <+: record.includes.map (·.text)
  missing : o.includes.length < record.includes.length →
    ∃ next, record.includes[o.includes.length]? = some next ∧
      .budgetExhausted limits.maxIncludes .included next ∈ o.ownProblems
  redirected : ∀ child, o.redirect = some child →
    (∃ target, record.redirect = some target ∧ child.domain = target.text) ∧
      o.includes.length = record.includes.length ∧ ∀ kid ∈ o.includes, kid.valid = true
  notRedirected : ∀ target, record.redirect = some target → o.redirect = none →
    (∃ kid ∈ o.includes, kid.valid = false) ∨ o.includes.length < record.includes.length ∨
      .budgetExhausted limits.maxIncludes .redirected target ∈ o.ownProblems
  inEffect : o.allTerms = ((o.redirect.filter (·.valid)).map (·.allTerms)).getD
    (record.all.toList.map Qualifier.allTerm)

-- If no include is missing, what is left to say is about the redirect.
theorem Outcome.mirrors_complete {limits : Limits} {record : Record} {o : Outcome}
    {visit : Visit} {w after : Walk} (names : NamesTargets visit)
    (visits : Visits visit w record.includes o.includes after)
    (redirected : ∀ child, o.redirect = some child →
      (∃ target, record.redirect = some target ∧ child.domain = target.text) ∧
        ∀ kid ∈ o.includes, kid.valid = true)
    (notRedirected : ∀ target, record.redirect = some target → o.redirect = none →
      (∃ kid ∈ o.includes, kid.valid = false) ∨
        .budgetExhausted limits.maxIncludes .redirected target ∈ o.ownProblems)
    (inEffect : o.allTerms = ((o.redirect.filter (·.valid)).map (·.allTerms)).getD
      (record.all.toList.map Qualifier.allTerm)) : o.Mirrors limits record where
  included := by rw [visits.domains names]
  missing := by
    intro short
    rw [visits.length_eq] at short
    exact absurd short (Nat.lt_irrefl _)
  redirected := by
    intro child isRedirect
    exact ⟨(redirected child isRedirect).1, visits.length_eq, (redirected child isRedirect).2⟩
  notRedirected := by
    intro target leads noRedirect
    rcases notRedirected target leads noRedirect with invalid | exhausted
    · exact Or.inl invalid
    · exact Or.inr (Or.inr exhausted)
  inEffect := inEffect

namespace Course

variable {limits : Limits} {visit : Visit} {w after : Walk}

theorem mirrors {start o : Outcome} {record : Record} (names : NamesTargets visit)
    (noIncludes : start.includes = []) (noRedirect : start.redirect = none)
    (effective : start.effective = record.all)
    (course : Course limits visit start w (some record) o after) : o.Mirrors limits record := by
  obtain ⟨_, _, _, _, _, _, _, _, _, _⟩ := start
  cases noIncludes
  cases noRedirect
  cases effective
  cases course with
  | @shortOfIncludes _ met later next kids _ split visits exhausted =>
      have length := visits.length_eq
      refine ⟨?_, ?_, ?_, ?_, rfl⟩
      · change kids.map _ <+: _
        rw [visits.domains names, split, List.map_append]
        exact List.prefix_append _ _
      · intro _
        refine ⟨next, ?_, Outcome.mem_ownProblems_fail _ _⟩
        change record.includes[kids.length]? = some next
        rw [split, length, List.getElem?_append_right (Nat.le_refl _), Nat.sub_self]
        rfl
      · rintro _ ⟨⟩
      · intro target _ _
        refine Or.inr (Or.inl ?_)
        change kids.length < _
        rw [split, length, List.length_append, List.length_cons]
        omega
  | unsound visits invalid =>
      exact Outcome.mirrors_complete names visits (by rintro _ ⟨⟩) (fun _ _ _ => Or.inl invalid) rfl
  | ended visits last =>
      refine Outcome.mirrors_complete names visits (by rintro _ ⟨⟩) ?_ rfl
      intro target leads
      rw [last] at leads
      cases leads
  | shortOfRedirect visits sound redirect exhausted =>
      refine Outcome.mirrors_complete names visits (by rintro _ ⟨⟩) ?_ rfl
      intro target leads _
      rw [redirect] at leads
      cases leads
      exact Or.inr (Outcome.mem_ownProblems_fail _ _)
  | @redirected _ target kids child _ _ visits sound redirect made =>
      refine Outcome.mirrors_complete names visits ?_ ?_ ?_
      · rintro _ ⟨⟩
        exact ⟨⟨target, redirect, names _ _ _ _ made⟩, sound⟩
      · rintro _ _ ⟨⟩
      · -- The child's term replaces the record's own if the child is valid.
        cases valid : child.valid <;>
          simp [Outcome.allTerms, Outcome.redirectTo, Outcome.absorb, Outcome.addIncludes,
            Option.filter_some, valid]

end Course

/-- At every node of an evaluation the children stand for what its record leads to, and the
record is the one that is read at the node's name. A node without a record stands alone. -/
theorem evaluateFrom_mirrors_records (resolver : Resolver) (limits : Limits) (domain : String)
    (depth : Nat) (visited : List String) (spent : Nat) (node : Outcome)
    (inTree : node ∈ (evaluateFrom resolver limits domain depth visited spent).1.nodes) :
    (node.parsed = none → node.includes = [] ∧ node.redirect = none ∧ node.allTerms = []) ∧
      ∀ record, node.parsed = some record →
        (∃ name, name.text = node.domain ∧ recordAt resolver name = some record) ∧
          node.Mirrors limits record := by
  rcases evaluateFrom_origin resolver limits domain depth visited spent node inTree with
    ⟨p, _, same⟩ | ⟨name, visit, w, after, names, course⟩
  · rw [same]
    exact ⟨fun _ => ⟨rfl, rfl, rfl⟩, by rintro _ ⟨⟩⟩
  · obtain ⟨isDomain, _, isParsed⟩ := course.keeps
    change node.parsed = recordAt resolver name at isParsed
    rw [isParsed]
    cases read : recordAt resolver name with
    | none =>
        rw [read] at course
        cases course
        refine ⟨fun _ => ⟨rfl, rfl, ?_⟩, by rintro _ ⟨⟩⟩
        change ((recordAt resolver name).bind (·.all)).toList.map _ = []
        rw [read]
        rfl
    | some record =>
        rw [read] at course
        refine ⟨by rintro ⟨⟩, ?_⟩
        rintro _ ⟨⟩
        refine ⟨⟨name, isDomain.symm, read⟩, course.mirrors names rfl rfl ?_⟩
        change (recordAt resolver name).bind (·.all) = record.all
        rw [read]
        rfl

def chainZone : Resolver := fun name =>
  if name.text = "a.example" then ⟨.ok ["v=spf1 include:b.example redirect=c.example ?all"], 5⟩
  else if name.text = "b.example" then ⟨.ok ["v=spf1 a"], 0⟩
  else if name.text = "c.example" then
    ⟨.ok ["v=spf1 include:b.example include:b.example redirect=d.example +all"], 0⟩
  else ⟨.ok ["v=spf1 -all"], 0⟩

-- One lookup more would reach the second include of `c.example`.
theorem chainZone_mirrors_records :
    ∃ node, node.domain = "c.example" ∧ node.allTerms = ["+all"] ∧ node.includes.length = 1 ∧
      node ∈ (evaluateFrom chainZone ⟨5, 3, 9⟩ "a.example" 0 [] 0).1.nodes ∧
      (node.parsed = none → node.includes = [] ∧ node.redirect = none ∧ node.allTerms = []) ∧
      ∀ record, node.parsed = some record →
        (∃ name, name.text = node.domain ∧ recordAt chainZone name = some record) ∧
          node.Mirrors ⟨5, 3, 9⟩ record := by
  have found : ((evaluateFrom chainZone ⟨5, 3, 9⟩ "a.example" 0 [] 0).1.nodes.any fun node =>
      node.domain = "c.example" ∧ node.allTerms = ["+all"] ∧ node.includes.length = 1) = true := by
    decide +kernel
  obtain ⟨node, inTree, isThere⟩ := List.any_eq_true.mp found
  obtain ⟨atName, inEffect, one⟩ := of_decide_eq_true isThere
  exact ⟨node, atName, inEffect, one, inTree, evaluateFrom_mirrors_records chainZone ⟨5, 3, 9⟩
    "a.example" 0 [] 0 node inTree⟩

end SenderAudit.Spf
