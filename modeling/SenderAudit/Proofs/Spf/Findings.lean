import SenderAudit.Proofs.Spf.Course

/-!
Where the errors and warnings of a node come from. They are its own and those of its
children, each under the step that leads to the child, in the order of the record; and a
node is valid exactly if nothing is wrong at it or anywhere below it.
-/
namespace SenderAudit.Spf

def shortfall (limits : Limits) (short : Option (Relation × DomainName)) : List Problem :=
  short.toList.map fun lead => .budgetExhausted limits.maxIncludes lead.1 lead.2

namespace Outcome

/-- What a child says, in the words of its parent. -/
def wordsVia (child : Outcome) (relation : Relation) (words : String) : String :=
  s!"{relation.word} {child.domain}: {words}"

def errorsVia (relation : Relation) (child : Outcome) : List String :=
  child.errors.map (child.wordsVia relation)

def notesVia (relation : Relation) (child : Outcome) : List String :=
  child.notes.map (child.wordsVia relation)

/-- What a node says by itself, the budget apart: why it was not read, or what follows from
the answer at its name alone. -/
inductive Opens (resolver : Resolver) (limits : Limits) (o : Outcome) :
    List Problem → List Warning → Prop
  | unread (p : Problem) (cause : p.isRefusal = true ∨ p = .timedOut limits.timeoutMs)
      (same : o = .failed o.domain p) : Opens resolver limits o [p] []
  | read (name : DomainName) (named : o.domain = name.text)
      (text : o.record = firstText (resolver name).texts)
      (parsed : o.parsed = recordAt resolver name) :
      Opens resolver limits o (problemsIn name (resolver name).texts)
        (warningsIn name (resolver name).texts)

/-- A lead that the budget does not reach comes right after those that were followed, and no
redirect is. -/
def StopsAt (o : Outcome) (short : Option (Relation × DomainName)) : Prop :=
  ∀ lead, short = some lead → o.redirect = none ∧
    ∃ record, o.parsed = some record ∧ record.leads[o.children.length]? = some lead

structure Gathers (limits : Limits) (o : Outcome) (opening : List Problem)
    (short : Option (Relation × DomainName)) (notes : List Warning) : Prop where
  problems : o.problems = opening.map .own ++ o.includes.flatMap (problemsVia .included) ++
    (shortfall limits short).map .own ++ o.redirect.toList.flatMap (problemsVia .redirected)
  warnings : o.warnings = notes.map .own ++ o.includes.flatMap (warningsVia .included) ++
    o.redirect.toList.flatMap (warningsVia .redirected)
  stopsAt : o.StopsAt short

structure Accounts (limits : Limits) (o : Outcome) (opening : List Problem)
    (short : Option (Relation × DomainName)) (notes : List Warning) : Prop where
  errors : o.errors = opening.map Problem.message ++ o.includes.flatMap (errorsVia .included) ++
    (shortfall limits short).map Problem.message ++
    o.redirect.toList.flatMap (errorsVia .redirected)
  notes : o.notes = notes.map Warning.message ++ o.includes.flatMap (notesVia .included) ++
    o.redirect.toList.flatMap (notesVia .redirected)
  own : o.ownProblems = opening ++ shortfall limits short
  stopsAt : o.StopsAt short

theorem messages_own {Cause : Type} (text : Cause → String) (causes : List Cause) :
    (causes.map Finding.own).map (·.message text) = causes.map text := by
  rw [List.map_map]
  rfl

theorem messages_via {Cause : Type} (text : Cause → String) (relation : Relation)
    (findings : Outcome → List (Finding Cause)) (children : List Outcome) :
    (children.flatMap fun child =>
        (findings child).map (·.seenVia ⟨relation, child.domain⟩)).map (·.message text) =
      children.flatMap fun child =>
        ((findings child).map (·.message text)).map (child.wordsVia relation) := by
  simp only [List.map_flatMap, List.map_map]
  rfl

theorem messages_problemsVia (relation : Relation) (children : List Outcome) :
    (children.flatMap (problemsVia relation)).map (·.message Problem.message) =
      children.flatMap (errorsVia relation) :=
  messages_via Problem.message relation problems children

theorem messages_warningsVia (relation : Relation) (children : List Outcome) :
    (children.flatMap (warningsVia relation)).map (·.message Warning.message) =
      children.flatMap (notesVia relation) :=
  messages_via Warning.message relation warnings children

theorem owned_problemsVia (relation : Relation) (children : List Outcome) :
    owned (children.flatMap (problemsVia relation)) = [] := by
  induction children with
  | nil => rfl
  | cons child rest ih =>
      rw [List.flatMap_cons, owned_append, ih, problemsVia, owned_seenVia, List.append_nil]

theorem addIncludes_ownProblems (o : Outcome) (kids : List Outcome) :
    (o.addIncludes kids).ownProblems = o.ownProblems := by
  rw [ownProblems, addIncludes, owned_append, owned_problemsVia, List.append_nil, ownProblems]

theorem redirectTo_ownProblems (o child : Outcome) :
    (o.redirectTo child).ownProblems = o.ownProblems := by
  rw [ownProblems, redirectTo, absorb, owned_append, owned_seenVia, List.append_nil, ownProblems]

section Gathered

variable {limits : Limits} {o : Outcome} {opening : List Problem}
  {short : Option (Relation × DomainName)} {notes : List Warning}

theorem Gathers.own (gathers : o.Gathers limits opening short notes) :
    o.ownProblems = opening ++ shortfall limits short := by
  rw [ownProblems, gathers.problems, owned_append, owned_append, owned_append, owned_own,
    owned_own, owned_problemsVia, owned_problemsVia, List.append_nil, List.append_nil]

theorem Gathers.accounts (gathers : o.Gathers limits opening short notes) :
    o.Accounts limits opening short notes where
  errors := by
    rw [Outcome.errors, gathers.problems]
    simp only [List.map_append, messages_own, messages_problemsVia]
  notes := by
    rw [Outcome.notes, gathers.warnings]
    simp only [List.map_append, messages_own, messages_warningsVia]
  own := gathers.own
  stopsAt := gathers.stopsAt

theorem Gathers.problems_nil_iff (gathers : o.Gathers limits opening short notes) :
    o.problems = [] ↔ o.ownProblems = [] ∧ ∀ child ∈ o.children, child.problems = [] := by
  rw [gathers.own, gathers.problems]
  simp only [children, List.append_eq_nil_iff, List.map_eq_nil_iff, List.flatMap_eq_nil_iff,
    problemsVia, List.forall_mem_append]
  tauto

end Gathered

end Outcome

namespace Course

variable {limits : Limits} {visit : Visit} {start o : Outcome} {w after : Walk}
  {record : Option Record} {opening : List Problem} {notes : List Warning}

theorem gathers (childless : start.children = []) (parsed : start.parsed = record)
    (problems : start.problems = opening.map .own) (warnings : start.warnings = notes.map .own)
    (course : Course limits visit start w record o after) :
    ∃ short, o.Gathers limits opening short notes := by
  obtain ⟨noIncludes, noRedirect⟩ := List.append_eq_nil_iff.mp childless
  have noRedirect := Option.toList_eq_nil_iff.mp noRedirect
  obtain ⟨_, _, _, _, _, _, _, _, _, _⟩ := start
  cases noIncludes
  cases noRedirect
  cases parsed
  cases problems
  cases warnings
  cases course with
  | unread => exact ⟨none, by simp [shortfall], by simp, by rintro _ ⟨⟩⟩
  | @shortOfIncludes record met later next kids _ split visits _ =>
      refine ⟨some (.included, next), ?_, ?_, ?_⟩
      · simp [Outcome.fail, Outcome.addIncludes, shortfall]
      · simp [Outcome.fail, Outcome.addIncludes]
      · rintro _ ⟨⟩
        refine ⟨rfl, record, rfl, ?_⟩
        change record.leads[(kids ++ []).length]? = _
        rw [Record.leads, split, List.append_nil, visits.length_eq]
        simp
  | unsound visits _ =>
      refine ⟨none, ?_, ?_, by rintro _ ⟨⟩⟩
      · simp [Outcome.addIncludes, shortfall]
      · simp [Outcome.addIncludes]
  | ended visits _ =>
      refine ⟨none, ?_, ?_, by rintro _ ⟨⟩⟩
      · simp [Outcome.addIncludes, shortfall]
      · simp [Outcome.addIncludes]
  | @shortOfRedirect record target kids _ visits _ redirect _ =>
      refine ⟨some (.redirected, target), ?_, ?_, ?_⟩
      · simp [Outcome.fail, Outcome.addIncludes, shortfall]
      · simp [Outcome.fail, Outcome.addIncludes]
      · rintro _ ⟨⟩
        refine ⟨rfl, record, rfl, ?_⟩
        change record.leads[(kids ++ []).length]? = _
        rw [Record.leads, redirect, List.append_nil, visits.length_eq]
        simp
  | redirected visits _ _ _ =>
      refine ⟨none, ?_, ?_, by rintro _ ⟨⟩⟩
      · simp [Outcome.redirectTo, Outcome.absorb, Outcome.addIncludes, shortfall,
          Outcome.problemsVia]
      · simp [Outcome.redirectTo, Outcome.absorb, Outcome.addIncludes, Outcome.warningsVia]

theorem valid_iff (childless : start.children = []) (problems : start.problems = opening.map .own)
    (sound : start.valid = opening.isEmpty)
    (course : Course limits visit start w record o after) :
    o.valid = true ↔ o.ownProblems = [] ∧ ∀ child ∈ o.children, child.valid = true := by
  obtain ⟨noIncludes, noRedirect⟩ := List.append_eq_nil_iff.mp childless
  have noRedirect := Option.toList_eq_nil_iff.mp noRedirect
  have alone : start.valid = true ↔ start.ownProblems = [] := by
    rw [sound, List.isEmpty_iff, Outcome.ownProblems, problems, Outcome.owned_own]
  have failed : ∀ (o : Outcome) (p : Problem), (o.fail p).valid = true ↔
      (o.fail p).ownProblems = [] ∧ ∀ child ∈ (o.fail p).children, child.valid = true := by
    intro o p
    constructor
    · rintro ⟨⟩
    · rintro ⟨none, _⟩
      exact absurd (o.mem_ownProblems_fail p) (by simp [none])
  have included : ∀ kids, (start.addIncludes kids).valid = true ↔
      (start.addIncludes kids).ownProblems = [] ∧
        ∀ child ∈ (start.addIncludes kids).children, child.valid = true := by
    intro kids
    rw [Outcome.addIncludes_ownProblems, ← alone]
    simp [Outcome.addIncludes, Outcome.children, noIncludes, noRedirect]
  cases course with
  | unread => simp [alone, childless]
  | shortOfIncludes => exact failed _ _
  | unsound => exact included _
  | ended => exact included _
  | shortOfRedirect => exact failed _ _
  | @redirected _ _ kids child =>
      have both : ((start.addIncludes kids).redirectTo child).valid = true ↔
          (start.addIncludes kids).valid = true ∧ child.valid = true := Bool.and_eq_true_iff
      rw [both, included kids, Outcome.redirectTo_ownProblems]
      simp [Outcome.redirectTo, Outcome.absorb, Outcome.addIncludes, Outcome.children,
        noIncludes, noRedirect, and_assoc, or_imp, forall_and]

end Course

section Origins

variable {resolver : Resolver} {limits : Limits} {o : Outcome}

theorem Origin.accounts (origin : Origin resolver limits o) :
    ∃ opening short notes, o.Opens resolver limits opening notes ∧
      o.Accounts limits opening short notes := by
  rcases origin with ⟨p, cause, same⟩ | ⟨name, visit, w, after, names, course⟩
  · refine ⟨[p], none, [], .unread p cause same, ?_⟩
    rw [same]
    exact ⟨rfl, rfl, rfl, by rintro _ ⟨⟩⟩
  · obtain ⟨short, gathers⟩ := course.gathers rfl rfl rfl rfl
    obtain ⟨isDomain, isText, isParsed⟩ := course.keeps
    exact ⟨_, short, _, .read name isDomain isText isParsed, gathers.accounts⟩

theorem Origin.valid_iff (origin : Origin resolver limits o) :
    o.valid = true ↔ o.ownProblems = [] ∧ ∀ child ∈ o.children, child.valid = true := by
  rcases origin with ⟨p, _, same⟩ | ⟨name, visit, w, after, names, course⟩
  · rw [same]
    simp [Outcome.failed, Outcome.fail, Outcome.ownProblems, Outcome.owned, Finding.own]
  · exact course.valid_iff rfl rfl rfl

theorem Origin.problems_nil_iff (origin : Origin resolver limits o) :
    o.problems = [] ↔ o.ownProblems = [] ∧ ∀ child ∈ o.children, child.problems = [] := by
  rcases origin with ⟨p, _, same⟩ | ⟨name, visit, w, after, names, course⟩
  · rw [same]
    simp [Outcome.failed, Outcome.fail, Outcome.ownProblems, Outcome.owned, Finding.own]
  · obtain ⟨_, gathers⟩ := course.gathers rfl rfl rfl rfl
    exact gathers.problems_nil_iff

-- Both equivalences pass from the children of a node to the node.
theorem valid_iff_problems_nil (origins : ∀ node ∈ o.nodes, Origin resolver limits node) :
    o.valid = true ↔ o.problems = [] := by
  induction o using Outcome.children_induction with
  | step o ih =>
      have origin := origins o o.self_mem_nodes
      rw [origin.valid_iff, origin.problems_nil_iff]
      apply and_congr_right
      intro _
      apply forall₂_congr
      intro child isChild
      exact ih child isChild fun node inChild =>
        origins node (o.mem_nodes_of_child child node isChild inChild)

theorem valid_iff_nodes (origins : ∀ node ∈ o.nodes, Origin resolver limits node) :
    o.valid = true ↔ ∀ node ∈ o.nodes, node.ownProblems = [] := by
  induction o using Outcome.children_induction with
  | step o ih =>
      have origin := origins o o.self_mem_nodes
      rw [origin.valid_iff, Outcome.nodes_eq, List.forall_mem_cons, Outcome.descendants,
        List.forall_mem_flatMap]
      apply and_congr_right
      intro _
      apply forall₂_congr
      intro child isChild
      exact ih child isChild fun node inChild =>
        origins node (o.mem_nodes_of_child child node isChild inChild)

/-- What a node says, some node of its subtree says by itself. -/
theorem problems_owned (origins : ∀ node ∈ o.nodes, Origin resolver limits node) :
    ∀ f ∈ o.problems, ∃ node ∈ o.nodes, f.cause ∈ node.ownProblems := by
  induction o using Outcome.children_induction with
  | step o ih =>
      have fromChild : ∀ relation, ∀ child ∈ o.children, ∀ f ∈ child.problemsVia relation,
          ∃ node ∈ o.nodes, f.cause ∈ node.ownProblems := by
        intro relation child isChild f found
        obtain ⟨made, isMade, rfl⟩ := List.mem_map.mp found
        obtain ⟨node, inChild, owns⟩ := ih child isChild (fun node inChild =>
          origins node (o.mem_nodes_of_child child node isChild inChild)) made isMade
        exact ⟨node, o.mem_nodes_of_child child node isChild inChild, owns⟩
      intro f found
      rcases origins o o.self_mem_nodes with ⟨p, _, same⟩ | ⟨name, visit, w, after, names, course⟩
      · refine ⟨o, o.self_mem_nodes, ?_⟩
        rw [same] at found ⊢
        obtain rfl := List.mem_singleton.mp found
        exact List.mem_singleton.mpr rfl
      · obtain ⟨short, gathers⟩ := course.gathers rfl rfl rfl rfl
        rw [gathers.problems] at found
        have own : ∀ cause, cause ∈ problemsIn name (resolver name).texts ++ shortfall limits short →
            ∃ node ∈ o.nodes, cause ∈ node.ownProblems :=
          fun cause isOwn => ⟨o, o.self_mem_nodes, gathers.own ▸ isOwn⟩
        simp only [List.mem_append, List.mem_map, List.mem_flatMap] at found
        rcases found with ((⟨p, early, rfl⟩ | ⟨child, isChild, via⟩) | ⟨p, late, rfl⟩) |
          ⟨child, isChild, via⟩
        · exact own p (List.mem_append_left _ early)
        · exact fromChild .included child (List.mem_append_left _ isChild) f via
        · exact own p (List.mem_append_right _ late)
        · exact fromChild .redirected child (List.mem_append_right _ isChild) f via

end Origins

/-- At every node of an evaluation: the errors and warnings are the node's own and those of
its children, in order and under the steps to them. The node is valid exactly if it has no
errors, and exactly if no node of its subtree has an error of its own. -/
theorem evaluateFrom_accounts (resolver : Resolver) (limits : Limits) (domain : String)
    (depth : Nat) (visited : List String) (spent : Nat) (node : Outcome)
    (inTree : node ∈ (evaluateFrom resolver limits domain depth visited spent).1.nodes) :
    (∃ opening short notes, node.Opens resolver limits opening notes ∧
        node.Accounts limits opening short notes) ∧
      (node.valid = true ↔ node.errors = []) ∧
      (node.valid = true ↔ ∀ below ∈ node.nodes, below.ownProblems = []) := by
  have origins := evaluateFrom_origin resolver limits domain depth visited spent
  have below : ∀ other ∈ node.nodes, Origin resolver limits other := fun other inside =>
    origins other (Outcome.nodes_of_node _ node inTree other inside)
  refine ⟨(origins node inTree).accounts, ?_, valid_iff_nodes below⟩
  rw [valid_iff_problems_nil below, Outcome.errors, List.map_eq_nil_iff]

def troubledZone : Resolver := fun name =>
  if name.text = "a.example" then
    ⟨.ok ["v=spf1 include:b.example include:d.example include:e.example", "v=spf1 -all"], 0⟩
  else if name.text = "b.example" then
    ⟨.ok ["v=spf1 include:d.example redirect=c.example ptr"], 20⟩
  else if name.text = "c.example" then ⟨.ok ["unrelated"], 0⟩
  else ⟨.ok ["v=spf1 +all"], 0⟩

-- The budget ends at the last include of the root, `b.example` has spent two lookups of it.
theorem troubledZone_accounts :
    ∃ node, node.errors =
        ["multiple SPF records found (2); evaluating the first",
          "include b.example: redirect c.example: no SPF record found",
          "include/redirect budget of 4 exhausted at include e.example"] ∧
      node.notes =
        ["include b.example: ptr mechanism is deprecated (RFC 7208 §5.5)",
          "include b.example: include d.example: +all authorizes every host on the internet",
          "include d.example: +all authorizes every host on the internet"] ∧
      node ∈ (evaluateFrom troubledZone ⟨5, 4, 20⟩ "a.example" 0 [] 0).1.nodes ∧
      (∃ opening short notes, node.Opens troubledZone ⟨5, 4, 20⟩ opening notes ∧
        node.Accounts ⟨5, 4, 20⟩ opening short notes) ∧
      (node.valid = true ↔ node.errors = []) ∧
      (node.valid = true ↔ ∀ below ∈ node.nodes, below.ownProblems = []) := by
  have root : (evaluateFrom troubledZone ⟨5, 4, 20⟩ "a.example" 0 [] 0).1 ∈
      (evaluateFrom troubledZone ⟨5, 4, 20⟩ "a.example" 0 [] 0).1.nodes :=
    Outcome.self_mem_nodes _
  exact ⟨_, by decide +kernel, by decide +kernel, root,
    evaluateFrom_accounts troubledZone ⟨5, 4, 20⟩ "a.example" 0 [] 0 _ root⟩

end SenderAudit.Spf
