import SenderAudit.Proofs.Spf.Budget
import SenderAudit.Proofs.Spf.ChildRuns
import SenderAudit.Proofs.Spf.Findings
import SenderAudit.Proofs.Spf.TermAccount

/-!
The targets of records, from the terms that write them to the nodes that they lead to. A
record keeps its targets in canonical form, so a walk enters a child by the very text that
the record holds; and a lead is followed only within the budget. So of the checks on entry,
those of the name and of the budget can fail at the root alone.
-/
namespace SenderAudit.Spf

def Record.targets (r : Record) : List DomainName :=
  r.a ++ r.mx ++ r.includes ++ r.existing ++ r.redirect.toList ++ r.exp.toList

/-- The text that a term of a record published at `domain` gives as its target. -/
inductive Term.Writes (domain : String) : Term → String → Prop
  | optional {m : Mechanism} (isOptional : m = .a ∨ m = .mx) (value : Option (List Char)) :
      Writes domain (.mechanism m.name.toList value) (targetOr domain value)
  | required {m : Mechanism} (isRequired : m = .included ∨ m = .existing) (value : List Char) :
      Writes domain (.mechanism m.name.toList (some value)) (String.ofList value)
  | modifier {name : String} (isTarget : name = "redirect" ∨ name = "exp") (value : List Char) :
      Writes domain (.modifier name.toList value) (String.ofList value)

def Written (domain : String) (words : List (List Char)) (name : DomainName) : Prop :=
  ∃ word ∈ words, ∃ term written, States word term ∧ term.Writes domain written ∧
    DomainName.parse written = .ok name

theorem parse_of_canonical? (target : String) (name : DomainName)
    (read : canonical? target = some name.text) : DomainName.parse target = .ok name := by
  unfold canonical? at read
  cases parsed : DomainName.parse target with
  | error fault =>
      rw [parsed] at read
      cases read
  | ok other =>
      rw [parsed] at read
      rw [DomainName.text_injective (Option.some.inj read)]

theorem accepted_some {domain text : String} {m : Mechanism} {term : Term}
    (accepted : term.accepted domain m = some text) :
    ∃ value, term = .mechanism m.name.toList value ∧ m.accepts domain value = some text := by
  cases term with
  | modifier name value => cases accepted
  | mechanism name value =>
      rw [Term.accepted] at accepted
      split at accepted
      · rename_i named
        exact ⟨value, by rw [named], accepted⟩
      · cases accepted

theorem mem_kept {domain : String} {words : List (List Char)} {d : Draft}
    (accounts : Accounts domain words d) (m : Mechanism) (value : String) :
    value ∈ d.record.kept m ↔ ∃ word ∈ words, ∃ given,
      States word (.mechanism m.name.toList given) ∧ m.accepts domain given = some value := by
  rw [accounts.kept, List.mem_filterMap]
  constructor
  · rintro ⟨_, member, accepted⟩
    obtain ⟨word, inWords, rfl⟩ := List.mem_map.mp member
    obtain ⟨given, read, accepts⟩ := accepted_some accepted
    exact ⟨word, inWords, given, (read_iff word _).mp read, accepts⟩
  · rintro ⟨word, inWords, given, states, accepts⟩
    refine ⟨_, List.mem_map_of_mem inWords, ?_⟩
    rw [(read_iff word _).mpr states, Term.accepted_own, accepts]

theorem written_of_kept {domain : String} {words : List (List Char)} {d : Draft}
    (accounts : Accounts domain words d) {m : Mechanism} {name : DomainName}
    (kept : name.text ∈ d.record.kept m)
    (writes : ∀ value, m.accepts domain value = some name.text → ∃ written,
      (Term.mechanism m.name.toList value).Writes domain written ∧
        canonical? written = some name.text) : Written domain words name := by
  obtain ⟨word, inWords, value, states, accepts⟩ := (mem_kept accounts m name.text).mp kept
  obtain ⟨written, isWritten, canonical⟩ := writes value accepts
  exact ⟨word, inWords, _, written, states, isWritten,
    parse_of_canonical? written name canonical⟩

theorem written_optional {domain : String} {m : Mechanism} (isOptional : m = .a ∨ m = .mx)
    (value : Option (List Char)) (text : String) (accepts : m.accepts domain value = some text) :
    ∃ written, (Term.mechanism m.name.toList value).Writes domain written ∧
      canonical? written = some text := by
  refine ⟨_, .optional isOptional value, ?_⟩
  rcases isOptional with rfl | rfl <;> exact accepts

theorem written_required {domain : String} {m : Mechanism}
    (isRequired : m = .included ∨ m = .existing) (value : Option (List Char)) (text : String)
    (accepts : m.accepts domain value = some text) :
    ∃ written, (Term.mechanism m.name.toList value).Writes domain written ∧
      canonical? written = some text := by
  cases value with
  | none => rcases isRequired with rfl | rfl <;> cases accepts
  | some target =>
      refine ⟨_, .required isRequired target, ?_⟩
      rcases isRequired with rfl | rfl <;> exact accepts

def Reads (name : String) (word : List Char) (target : DomainName) : Prop :=
  ∃ value, Term.read word = .modifier name.toList value ∧
    DomainName.parse (String.ofList value) = .ok target

section Modifiers

variable {domain : String} {word : List Char} {d after : Draft}

theorem redirect_step (taken : Taken domain word d after) :
    after.record.redirect = d.record.redirect ∨
      ∃ target, after.record.redirect = some target ∧ Reads "redirect" word target := by
  cases taken with
  | kept _ _ keeps => exact Or.inl keeps.redirect
  | redirected read _ parsed => exact Or.inr ⟨_, rfl, _, read, parsed⟩
  | _ => exact Or.inl rfl

theorem exp_step (taken : Taken domain word d after) :
    after.record.exp = d.record.exp ∨
      ∃ target, after.record.exp = some target ∧ Reads "exp" word target := by
  cases taken with
  | kept _ _ keeps => exact Or.inl keeps.exp
  | explained read _ parsed => exact Or.inr ⟨_, rfl, _, read, parsed⟩
  | _ => exact Or.inl rfl

theorem reads_step {name : String} {words : List (List Char)}
    {before later : Option DomainName}
    (earlier : ∀ target, before = some target → ∃ word ∈ words, Reads name word target)
    (step : later = before ∨ ∃ target, later = some target ∧ Reads name word target) :
    ∀ target, later = some target → ∃ word' ∈ words ++ [word], Reads name word' target := by
  intro target isSet
  rcases step with same | ⟨_, isLater, reads⟩
  · obtain ⟨first, member, reads⟩ := earlier target (same ▸ isSet)
    exact ⟨first, List.mem_append_left _ member, reads⟩
  · cases isSet.symm.trans isLater
    exact ⟨word, List.mem_append_right _ (List.mem_singleton.mpr rfl), reads⟩

end Modifiers

structure ReadsTargets (words : List (List Char)) (d : Draft) : Prop where
  redirect : ∀ target, d.record.redirect = some target →
    ∃ word ∈ words, Reads "redirect" word target
  exp : ∀ target, d.record.exp = some target → ∃ word ∈ words, Reads "exp" word target

theorem takeTerms_readsTargets (domain : String) (words : List (List Char)) (d : Draft)
    (read : takeTerms domain {} words = .ok d) : ReadsTargets words d := by
  refine takeTerms_induct domain (P := ReadsTargets) ?_ ?_ words d read
  · exact ⟨by rintro _ ⟨⟩, by rintro _ ⟨⟩⟩
  · intro words d word after reads step
    have taken := takeTerm_taken step
    exact ⟨reads_step reads.redirect (redirect_step taken), reads_step reads.exp (exp_step taken)⟩

theorem written_of_reads {domain name : String} {words : List (List Char)} {target : DomainName}
    (isTarget : name = "redirect" ∨ name = "exp") (reads : ∃ word ∈ words, Reads name word target) :
    Written domain words target := by
  obtain ⟨word, member, value, read, parsed⟩ := reads
  exact ⟨word, member, _, _, (read_iff word _).mp read, .modifier isTarget value, parsed⟩

/-- Every name in a record is the target that one of its terms writes. -/
theorem parse_targets (domain text : String) (r : Record) (warnings : List Warning)
    (read : Record.parse domain text = .ok (r, warnings)) :
    ∀ name ∈ r.targets, Written domain (laterWords text) name := by
  obtain ⟨_, d, taken, rfl, rfl⟩ := (parse_ok_iff domain text r warnings).mp read
  have accounts := takeTerms_accounts domain (laterWords text) d taken
  obtain ⟨redirect, exp⟩ := takeTerms_readsTargets domain (laterWords text) d taken
  intro name member
  simp only [Record.targets, List.mem_append, Option.mem_toList, or_assoc] at member
  rcases member with a | mx | included | existing | isRedirect | isExp
  · exact written_of_kept accounts (m := .a) (List.mem_map_of_mem a)
      fun value => written_optional (Or.inl rfl) value name.text
  · exact written_of_kept accounts (m := .mx) (List.mem_map_of_mem mx)
      fun value => written_optional (Or.inr rfl) value name.text
  · exact written_of_kept accounts (m := .included) (List.mem_map_of_mem included)
      fun value => written_required (Or.inl rfl) value name.text
  · exact written_of_kept accounts (m := .existing) (List.mem_map_of_mem existing)
      fun value => written_required (Or.inr rfl) value name.text
  · exact written_of_reads (Or.inl rfl) (redirect name isRedirect)
  · exact written_of_reads (Or.inr rfl) (exp name isExp)

/-! The checks on the entry to a node. -/

/-- A node whose own problems are neither its name nor that too much was spent before it. -/
def Outcome.Admissible (o : Outcome) : Prop :=
  ∀ p ∈ o.ownProblems, (∀ failure, p ≠ .badName failure) ∧
    ∀ spent limit, p ≠ .tooManyLookups spent limit

theorem failed_ownProblems (domain : String) (p : Problem) :
    (Outcome.failed domain p).ownProblems = [p] := rfl

theorem admissible_of_noRefusal (o : Outcome)
    (noRefusal : ∀ p ∈ o.ownProblems, p.isRefusal = false) : o.Admissible := by
  intro p found
  constructor
  · rintro failure rfl
    cases noRefusal _ found
  · rintro spent limit rfl
    cases noRefusal _ found

theorem reading_noRefusal (name : DomainName) (answer : Except LookupFailure (List String)) :
    ∀ p ∈ problemsIn name answer, p.isRefusal = false := by
  intro p found
  by_cases published : firstText answer = none
  · obtain ⟨_, only, same, isLookup⟩ := unpublished_problem name answer published
    rw [same] at found
    obtain rfl := List.mem_singleton.mp found
    rcases isLookup with ⟨_, rfl⟩ | ⟨_, rfl⟩ <;> rfl
  · rcases published_problem name answer published p found with ⟨_, rfl⟩ | ⟨_, rfl⟩ <;> rfl

theorem course_admissible {limits : Limits} {visit : Visit} {name : DomainName}
    {answer : Except LookupFailure (List String)} {w after : Walk} {record : Option Record}
    {o : Outcome} (isRecord : firstRecord name answer = record)
    (course : Course limits visit (reading name answer) w record o after) : o.Admissible := by
  obtain ⟨short, gathers⟩ := course.gathers rfl isRecord rfl rfl
  apply admissible_of_noRefusal
  intro p found
  rw [gathers.own] at found
  rcases List.mem_append.mp found with early | late
  · exact reading_noRefusal name answer p early
  · obtain ⟨lead, _, rfl⟩ := List.mem_map.mp late
    rfl

-- A name is a name, so the depth and the names above are all that is left to refuse it for.
theorem refusal?_of_name (limits : Limits) (levels : Nat) (visited : List String) (spent : Nat)
    (name : DomainName) (p : Problem) (affordable : spent ≤ limits.maxIncludes)
    (refused : refusal? limits levels visited spent (.ofName name) = some p) :
    p = .tooDeep limits.maxDepth ∨ p = .circular (visited ++ [name.text]) := by
  unfold refusal? at refused
  split at refused
  · exact Or.inl (Option.some.inj refused).symm
  · split at refused
    · exact Or.inr (Option.some.inj refused).symm
    · rw [if_neg (Nat.not_lt.mpr affordable)] at refused
      cases refused

theorem visit_admissible (resolver : Resolver) (limits : Limits) (levels : Nat)
    (visited : List String) (enclosing : Option Nat) (name : DomainName) (w after : Walk)
    (o : Outcome) (affordable : w.spent ≤ limits.maxIncludes)
    (run : visit resolver limits levels visited enclosing (.ofName name) w = (some o, after)) :
    o.Admissible := by
  rcases visit_cases resolver limits levels visited enclosing _ w after o run with
    ⟨p, refused, rfl⟩ | ⟨below, _, _, ⟨⟩, ⟨_, rfl⟩ | ⟨answered, _, course⟩⟩
  · intro q found
    rw [failed_ownProblems] at found
    obtain rfl := List.mem_singleton.mp found
    rcases refusal?_of_name limits levels visited w.spent name q affordable refused with
      rfl | rfl
    · exact ⟨by rintro _ ⟨⟩, by rintro _ _ ⟨⟩⟩
    · exact ⟨by rintro _ ⟨⟩, by rintro _ _ ⟨⟩⟩
  · intro q found
    obtain rfl := List.mem_singleton.mp found
    exact ⟨by rintro _ ⟨⟩, by rintro _ _ ⟨⟩⟩
  · exact course_admissible rfl course

/-- Every one of the visits starts with no more spent than there is after all of them. -/
theorem Visits.entered {visit : Visit} {w after : Walk} {targets : List DomainName}
    {kids : List Outcome} (grows : ∀ target w, w.spent ≤ (visit target w).2.spent)
    (visits : Visits visit w targets kids after) :
    w.spent ≤ after.spent ∧ ∀ kid ∈ kids, ∃ target entry later,
      entry.spent ≤ after.spent ∧ visit target entry = (some kid, later) := by
  induction visits with
  | none w => exact ⟨Nat.le_refl _, by simp⟩
  | @next w between after target targets kid kids made others ih =>
      have step := grows target w.spend
      rw [made] at step
      have spends : w.spent ≤ w.spend.spent := Nat.le_succ _
      refine ⟨spends.trans (step.trans ih.1), List.forall_mem_cons.mpr ⟨?_, ih.2⟩⟩
      exact ⟨target, w.spend, between, step.trans ih.1, made⟩

/-- The children of every node are admissible, whatever was spent before the root. -/
theorem visit_children_admissible (resolver : Resolver) (limits : Limits) (levels : Nat)
    (visited : List String) (enclosing : Option Nat) (target : Target) (w after : Walk)
    (o : Outcome)
    (run : visit resolver limits levels visited enclosing target w = (some o, after)) :
    ∀ node ∈ o.nodes, ∀ child ∈ node.children, child.Admissible := by
  have leaf : ∀ domain p, ∀ node ∈ (Outcome.failed domain p).nodes,
      ∀ child ∈ node.children, child.Admissible := by
    intro domain p node inTree child isChild
    obtain rfl := List.mem_singleton.mp inTree
    cases isChild
  induction levels generalizing visited enclosing target w after o with
  | zero =>
      cases run
      exact leaf _ _
  | succ below ih =>
      rcases refusal_cases limits (below + 1) visited w.spent target with
        ⟨p, refused⟩ | ⟨_, _, _, _, affordable, _⟩
      · rw [visit_refused resolver limits _ visited enclosing target w p refused] at run
        cases run
        exact leaf _ p
      · have paid := visit_paid resolver limits (below + 1) visited enclosing target w
        rw [run] at paid
        rcases visit_cases resolver limits (below + 1) visited enclosing target w after o run with
          ⟨p, _, rfl⟩ | ⟨_, name, ⟨⟩, _, ⟨_, rfl⟩ | ⟨answered, _, course⟩⟩
        · exact leaf _ p
        · exact leaf _ _
        · -- The guard before each lead keeps what the visits spend within the budget.
          obtain ⟨_, _, _, visits⟩ := course.children_visited rfl
          have entered := (visits.entered fun next walk =>
            (visit_paid resolver limits below (visited ++ [name.text]) _ (.ofName next) walk).grows).2
          intro node inTree child isChild
          rcases (Outcome.mem_nodes o node).mp inTree with rfl | ⟨top, isTop, inTop⟩
          · obtain ⟨next, entry, later, within, made⟩ := entered child isChild
            exact visit_admissible resolver limits below _ _ next entry later child
              (within.trans (paid.bounded affordable)) made
          · obtain ⟨next, entry, later, _, made⟩ := entered top isTop
            exact ih _ _ _ _ _ _ made node inTop child isChild

theorem Origin.child_target {resolver : Resolver} {limits : Limits} {node : Outcome}
    (origin : Origin resolver limits node) (i : Nat) (child : Outcome)
    (isChild : node.children[i]? = some child) :
    ∃ record target, node.parsed = some record ∧
      (record.includes ++ record.redirect.toList)[i]? = some target ∧
      child.domain = target.text := by
  rcases origin with ⟨p, _, same⟩ | ⟨name, visit, w, after, names, course⟩
  · rw [same] at isChild
    cases isChild
  · obtain ⟨_, _, isParsed⟩ := course.keeps
    obtain ⟨met, rest, split, visits⟩ := course.children_visited rfl
    have named := congrArg (fun texts : List String => texts[i]?) (visits.domains names)
    rw [List.getElem?_map, isChild, List.getElem?_map] at named
    obtain ⟨target, isTarget, same⟩ := Option.map_eq_some_iff.mp named.symm
    have isLead : (targetsOf (recordAt resolver name))[i]? = some target := by
      rw [split, List.getElem?_append_left (List.getElem?_eq_some_iff.mp isTarget).1, isTarget]
    cases read : recordAt resolver name with
    | none =>
        rw [read] at isLead
        cases isLead
    | some record =>
        rw [read] at isLead
        exact ⟨record, target, isParsed.trans read, isLead, same.symm⟩

/-- A record keeps the targets that its terms write in the form in which they are read again
as they stand. So no node of an evaluation but the root fails on entry for its name or for
the budget, and each is named by the very text of the target that its parent's record holds
in its place. -/
theorem targets_canonical :
    (∀ (domain text : String) (r : Record) (warnings : List Warning),
      Record.parse domain text = .ok (r, warnings) →
      ∀ name ∈ r.targets, Written domain (laterWords text) name ∧
        DomainName.parse name.text = .ok name ∧ Target.ofText name.text = .ofName name) ∧
    ∀ (resolver : Resolver) (limits : Limits) (domain : String) (depth : Nat)
      (visited : List String) (spent : Nat),
      ∀ node ∈ (evaluateFrom resolver limits domain depth visited spent).1.nodes,
        ∀ (i : Nat) (child : Outcome), node.children[i]? = some child → child.Admissible ∧
          ∃ record target, node.parsed = some record ∧
            (record.includes ++ record.redirect.toList)[i]? = some target ∧
            child.domain = target.text := by
  constructor
  · intro domain text r warnings read name member
    exact ⟨parse_targets domain text r warnings read name member, name.parse_text,
      ofText_text name⟩
  · intro resolver limits domain depth visited spent node inTree i child isChild
    constructor
    · exact visit_children_admissible resolver limits _ visited none _ _ _ _
        (evaluateFrom_eq resolver limits domain depth visited spent) node inTree child
        (List.mem_of_getElem? isChild)
    · exact (evaluateFrom_origin resolver limits domain depth visited spent node
        inTree).child_target i child isChild

def lastLeadZone : Resolver := fun name =>
  if name.text = "a.example" then ⟨.ok ["v=spf1 a mx:C.example/24 redirect=B.Example."], 0⟩
  else ⟨.ok ["v=spf1 include:c.example -all"], 0⟩

theorem lastLeadZone_targets :
    (∃ r warnings,
      Record.parse "a.example" "v=spf1 a mx:C.example/24 redirect=B.Example." =
          .ok (r, warnings) ∧
        r.targets.map (·.text) = ["a.example", "c.example", "b.example"] ∧
        ∀ name ∈ r.targets,
          Written "a.example"
              (laterWords "v=spf1 a mx:C.example/24 redirect=B.Example.") name ∧
            DomainName.parse name.text = .ok name ∧ Target.ofText name.text = .ofName name) ∧
    ∃ node ∈ (evaluateFrom lastLeadZone ⟨5, 1, 9⟩ "A.example" 0 [] 0).1.nodes,
      ∃ child, node.children[0]? = some child ∧ child.domain = "b.example" ∧
        child.Admissible ∧ ∃ record target, node.parsed = some record ∧
          (record.includes ++ record.redirect.toList)[0]? = some target ∧
          child.domain = target.text := by
  constructor
  · have evaluated : ((Record.parse "a.example"
        "v=spf1 a mx:C.example/24 redirect=B.Example.").toOption.any fun result =>
          result.1.targets.map (·.text) = ["a.example", "c.example", "b.example"]) = true := by
      decide +kernel
    cases read : Record.parse "a.example" "v=spf1 a mx:C.example/24 redirect=B.Example." with
    | error error =>
        rw [read] at evaluated
        cases evaluated
    | ok result =>
        obtain ⟨r, warnings⟩ := result
        rw [read] at evaluated
        exact ⟨r, warnings, rfl, of_decide_eq_true evaluated,
          targets_canonical.1 "a.example" _ r warnings read⟩
  · have found : ((evaluateFrom lastLeadZone ⟨5, 1, 9⟩ "A.example" 0 [] 0).1.nodes.any fun node =>
        node.children[0]?.any (·.domain = "b.example")) = true := by
      decide +kernel
    obtain ⟨node, inTree, isThere⟩ := List.any_eq_true.mp found
    cases isChild : node.children[0]? with
    | none =>
        rw [isChild] at isThere
        cases isThere
    | some child =>
        rw [isChild] at isThere
        exact ⟨node, inTree, child, isChild, of_decide_eq_true isThere,
          targets_canonical.2 lastLeadZone ⟨5, 1, 9⟩ "A.example" 0 [] 0 node inTree 0 child isChild⟩

end SenderAudit.Spf
