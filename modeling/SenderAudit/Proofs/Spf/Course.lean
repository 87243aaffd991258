import SenderAudit.Proofs.Spf.Unfolding

/-!
The courses that a visit can take until it comes to an outcome. A node is refused, or its
time runs out, or it is read: then what the answer says by itself comes first, and the
outcomes of its includes and of its redirect are taken in as far as they are followed.
-/
namespace SenderAudit.Spf

namespace Outcome

def problemsVia (relation : Relation) (child : Outcome) : List (Finding Problem) :=
  child.problems.map (·.seenVia ⟨relation, child.domain⟩)

def warningsVia (relation : Relation) (child : Outcome) : List (Finding Warning) :=
  child.warnings.map (·.seenVia ⟨relation, child.domain⟩)

def addIncludes (o : Outcome) (kids : List Outcome) : Outcome :=
  { o with
    valid := o.valid && kids.all (·.valid)
    includes := o.includes ++ kids
    lookups := o.lookups + (kids.map (·.lookups)).sum
    problems := o.problems ++ kids.flatMap (problemsVia .included)
    warnings := o.warnings ++ kids.flatMap (warningsVia .included) }

theorem addIncludes_nil (o : Outcome) : o.addIncludes [] = o := by
  cases o
  simp [addIncludes]

theorem addIncludes_cons (o kid : Outcome) (kids : List Outcome) :
    o.addIncludes (kid :: kids) = (o.addInclude kid).addIncludes kids := by
  simp [addIncludes, addInclude, absorb, problemsVia, warningsVia, Bool.and_assoc,
    Nat.add_assoc]

end Outcome

/-! What an answer says by itself. -/

def firstText : Except LookupFailure (List String) → Option String
  | .error _ => none
  | .ok answers => (candidates answers).head?.map String.ofList

def problemsIn (name : DomainName) : Except LookupFailure (List String) → List Problem
  | .error failure =>
      [if failure.isNameNotFound then .noRecord (some failure) else .lookupFailed failure]
  | .ok answers => match candidates answers with
    | [] => [.noRecord none]
    | first :: others =>
        (if others.isEmpty then [] else [.severalRecords (others.length + 1)]) ++
          match Record.parse name.text (String.ofList first) with
          | .error error => [.badRecord error]
          | .ok _ => []

def warningsIn (name : DomainName) : Except LookupFailure (List String) → List Warning
  | .error _ => []
  | .ok answers => match candidates answers with
    | [] => []
    | first :: _ => match Record.parse name.text (String.ofList first) with
      | .error _ => []
      | .ok (record, warnings) => warnings ++ adviceOn record

-- Without a record among the answers there is just one problem, and it is with the lookup.
theorem unpublished_problem (name : DomainName) (answer : Except LookupFailure (List String))
    (unpublished : firstText answer = none) :
    firstRecord name answer = none ∧ ∃ p, problemsIn name answer = [p] ∧
      ((∃ failure, p = .noRecord failure) ∨ ∃ failure, p = .lookupFailed failure) := by
  cases answer with
  | error failure =>
      refine ⟨rfl, _, rfl, ?_⟩
      split
      · exact Or.inl ⟨_, rfl⟩
      · exact Or.inr ⟨_, rfl⟩
  | ok answers =>
      cases texts : candidates answers with
      | nil =>
          refine ⟨by simp [firstRecord, texts], .noRecord none, ?_, Or.inl ⟨none, rfl⟩⟩
          simp [problemsIn, texts]
      | cons text others => simp [firstText, texts] at unpublished

theorem published_problem (name : DomainName) (answer : Except LookupFailure (List String))
    (published : firstText answer ≠ none) (p : Problem) (found : p ∈ problemsIn name answer) :
    (∃ count, p = .severalRecords count) ∨ ∃ error, p = .badRecord error := by
  cases answer with
  | error failure => exact absurd rfl published
  | ok answers =>
      simp only [problemsIn, firstText] at found published
      cases texts : candidates answers with
      | nil => simp [texts] at published
      | cons text others =>
          simp only [texts] at found
          rcases List.mem_append.mp found with several | bad
          · split at several
            · cases several
            · exact Or.inl ⟨_, List.mem_singleton.mp several⟩
          · split at bad
            · exact Or.inr ⟨_, List.mem_singleton.mp bad⟩
            · cases bad

def reading (name : DomainName) (answer : Except LookupFailure (List String)) : Outcome :=
  { domain := name.text
    valid := (problemsIn name answer).isEmpty
    record := firstText answer
    parsed := firstRecord name answer
    effective := (firstRecord name answer).bind (·.all)
    lookups := (firstRecord name answer).toList.length
    problems := (problemsIn name answer).map .own
    warnings := (warningsIn name answer).map .own }

theorem assess_eq_follow (limits : Limits) (visit : Visit) (name : DomainName)
    (answer : Except LookupFailure (List String)) (w : Walk) :
    assess limits visit name answer w = match firstRecord name answer with
      | none => (some (reading name answer), w)
      | some record => follow limits visit record (reading name answer) w := by
  cases answer with
  | error failure => rfl
  | ok answers =>
      cases found : candidates answers with
      | nil => simp [assess, firstRecord, reading, firstText, problemsIn, warningsIn, found,
          Outcome.failed, Outcome.fail, Finding.own]
      | cons text others =>
          cases parsed : Record.parse name.text (String.ofList text) with
          | error error =>
              cases others <;> simp [assess, firstRecord, reading, firstText, problemsIn,
                warningsIn, found, parsed, Outcome.fail]
          | ok reading' =>
              cases others <;> simp [assess, firstRecord, reading, firstText, problemsIn,
                warningsIn, found, parsed, Outcome.fail]

inductive Visits (visit : Visit) : Walk → List DomainName → List Outcome → Walk → Prop
  | none (w : Walk) : Visits visit w [] [] w
  | next {w between after : Walk} {target : DomainName} {targets : List DomainName}
      {kid : Outcome} {kids : List Outcome} (made : visit target w.spend = (some kid, between))
      (others : Visits visit between targets kids after) :
      Visits visit w (target :: targets) (kid :: kids) after

theorem followIncludes_cases (limits : Limits) (visit : Visit) (targets : List DomainName)
    (sound sound' : Bool) (o result : Outcome) (w after : Walk)
    (run : followIncludes limits visit targets sound o w = (some (result, sound'), after)) :
    ∃ kids,
      (Visits visit w targets kids after ∧ result = o.addIncludes kids ∧
        sound' = (sound && kids.all (·.valid))) ∨
      (∃ met next later, targets = met ++ next :: later ∧ Visits visit w met kids after ∧
        limits.maxIncludes ≤ after.spent ∧ sound' = false ∧
        result = (o.addIncludes kids).fail
          (.budgetExhausted limits.maxIncludes .included next)) := by
  induction targets generalizing sound o w with
  | nil =>
      cases run
      exact ⟨[], Or.inl ⟨.none _, (Outcome.addIncludes_nil _).symm, by simp⟩⟩
  | cons target rest ih =>
      simp only [followIncludes] at run
      split at run
      · rename_i exhausted
        cases run
        exact ⟨[], Or.inr ⟨[], target, rest, rfl, .none _, exhausted, rfl,
          by rw [Outcome.addIncludes_nil]⟩⟩
      · cases made : visit target w.spend with
        | mk found between =>
            rw [made] at run
            cases found with
            | none => cases run
            | some kid =>
                obtain ⟨kids, course⟩ := ih _ _ _ run
                refine ⟨kid :: kids, ?_⟩
                rcases course with ⟨visits, isResult, isSound⟩ |
                  ⟨met, next, later, split, visits, exhausted, unsound, isResult⟩
                · refine Or.inl ⟨.next made visits, ?_, ?_⟩
                  · rw [isResult, Outcome.addIncludes_cons]
                  · rw [isSound, List.all_cons, Bool.and_assoc]
                · refine Or.inr ⟨target :: met, next, later, ?_, .next made visits, exhausted,
                    unsound, ?_⟩
                  · rw [split, List.cons_append]
                  · rw [isResult, Outcome.addIncludes_cons]

/-- The courses that following a record can take from `start`, the outcome of its reading. -/
inductive Course (limits : Limits) (visit : Visit) (start : Outcome) (w : Walk) :
    Option Record → Outcome → Walk → Prop
  | unread : Course limits visit start w none start w
  | shortOfIncludes {record : Record} {met later : List DomainName} {next : DomainName}
      {kids : List Outcome} {after : Walk} (split : record.includes = met ++ next :: later)
      (visits : Visits visit w met kids after) (exhausted : limits.maxIncludes ≤ after.spent) :
      Course limits visit start w (some record)
        ((start.addIncludes kids).fail (.budgetExhausted limits.maxIncludes .included next)) after
  | unsound {record : Record} {kids : List Outcome} {after : Walk}
      (visits : Visits visit w record.includes kids after)
      (invalid : ∃ kid ∈ kids, kid.valid = false) :
      Course limits visit start w (some record) (start.addIncludes kids) after
  | ended {record : Record} {kids : List Outcome} {after : Walk}
      (visits : Visits visit w record.includes kids after) (last : record.redirect = none) :
      Course limits visit start w (some record) (start.addIncludes kids) after
  | shortOfRedirect {record : Record} {target : DomainName} {kids : List Outcome}
      {after : Walk} (visits : Visits visit w record.includes kids after)
      (sound : ∀ kid ∈ kids, kid.valid = true) (redirect : record.redirect = some target)
      (exhausted : limits.maxIncludes ≤ after.spent) :
      Course limits visit start w (some record)
        ((start.addIncludes kids).fail (.budgetExhausted limits.maxIncludes .redirected target))
        after
  | redirected {record : Record} {target : DomainName} {kids : List Outcome}
      {child : Outcome} {between after : Walk}
      (visits : Visits visit w record.includes kids between)
      (sound : ∀ kid ∈ kids, kid.valid = true) (redirect : record.redirect = some target)
      (made : visit target between.spend = (some child, after)) :
      Course limits visit start w (some record) ((start.addIncludes kids).redirectTo child) after

theorem follow_course (limits : Limits) (visit : Visit) (record : Record)
    (start result : Outcome) (w after : Walk)
    (run : follow limits visit record start w = (some result, after)) :
    Course limits visit start w (some record) result after := by
  unfold follow at run
  cases included : followIncludes limits visit record.includes true start w with
  | mk found between =>
      rw [included] at run
      cases found with
      | none => cases run
      | some pair =>
          obtain ⟨o, sound⟩ := pair
          obtain ⟨kids, ⟨visits, rfl, isSound⟩ |
              ⟨met, next, later, split, visits, exhausted, rfl, rfl⟩⟩ :=
            followIncludes_cases limits visit record.includes true sound start o w between
              included
          · cases sound with
            | false =>
                cases run
                exact .unsound visits (by simpa using isSound.symm)
            | true =>
                have allSound : ∀ kid ∈ kids, kid.valid = true := by simpa using isSound.symm
                cases redirect : record.redirect with
                | none =>
                    rw [redirect] at run
                    cases run
                    exact .ended visits redirect
                | some target =>
                    simp only [redirect, followRedirect] at run
                    split at run
                    · rename_i exhausted
                      cases run
                      exact .shortOfRedirect visits allSound redirect exhausted
                    · cases made : visit target between.spend with
                      | mk found final =>
                          rw [made] at run
                          cases found with
                          | none => cases run
                          | some child =>
                              cases run
                              exact .redirected visits allSound redirect made
          · cases run
            exact .shortOfIncludes split visits exhausted

theorem assess_course (limits : Limits) (visit : Visit) (name : DomainName)
    (answer : Except LookupFailure (List String)) (o : Outcome) (w after : Walk)
    (run : assess limits visit name answer w = (some o, after)) :
    Course limits visit (reading name answer) w (firstRecord name answer) o after := by
  rw [assess_eq_follow] at run
  cases read : firstRecord name answer with
  | none =>
      rw [read] at run
      cases run
      exact .unread
  | some record =>
      rw [read] at run
      exact follow_course limits visit record _ o w after run

theorem explore_course (resolver : Resolver) (limits : Limits) (levels : Nat)
    (visited : List String) (deadline : Nat) (name : DomainName) (w after : Walk) (o : Outcome)
    (run : explore resolver limits levels visited deadline name w = (some o, after)) :
    ∃ answered, w.ask resolver deadline name = (some (resolver name).texts, answered) ∧
      Course limits (visitBelow resolver limits levels visited name deadline)
        (reading name (resolver name).texts) answered (recordAt resolver name) o after := by
  unfold explore at run
  cases asked : w.ask resolver deadline name with
  | mk heard answered =>
      rw [asked] at run
      cases heard with
      | none => cases run
      | some answer =>
          obtain rfl := w.ask_answer answered resolver deadline name answer asked
          exact ⟨answered, rfl, assess_course limits _ name _ o answered after run⟩

/-- A visit that comes to an outcome was refused, or ran out of its own time, or read the
answer at its name and followed the record there. -/
theorem visit_cases (resolver : Resolver) (limits : Limits) (levels : Nat)
    (visited : List String) (enclosing : Option Nat) (target : Target) (w after : Walk)
    (o : Outcome)
    (run : visit resolver limits levels visited enclosing target w = (some o, after)) :
    (∃ p, refusal? limits levels visited w.spent target = some p ∧
      o = .failed target.spelling p) ∨
    ∃ below name, levels = below + 1 ∧ target.name = .ok name ∧
      ((enclosing.all (w.clock + limits.timeoutMs ≤ ·) = true ∧
          o = .failed target.spelling (.timedOut limits.timeoutMs)) ∨
        ∃ answered, w.ask resolver (deadlineAt limits enclosing w.clock) name =
            (some (resolver name).texts, answered) ∧
          Course limits
            (visitBelow resolver limits below visited name (deadlineAt limits enclosing w.clock))
            (reading name (resolver name).texts) answered (recordAt resolver name) o after) := by
  rcases refusal_cases limits levels visited w.spent target with
    ⟨p, refused⟩ | ⟨below, name, rfl, fresh, affordable, named⟩
  · rw [visit_refused resolver limits levels visited enclosing target w p refused] at run
    cases run
    exact Or.inl ⟨p, refused, rfl⟩
  · refine Or.inr ⟨below, name, rfl, named, ?_⟩
    rw [visit_admitted resolver limits below visited enclosing target w name fresh affordable
      named] at run
    cases explored : explore resolver limits below visited (deadlineAt limits enclosing w.clock)
        name w with
    | mk found between =>
        rw [explored] at run
        cases found with
        | none =>
            simp only [settle] at run
            split at run
            · rename_i innermost
              cases run
              exact Or.inl ⟨innermost, rfl⟩
            · cases run
        | some found =>
            cases run
            exact Or.inr (explore_course resolver limits below visited _ name w _ _ explored)

def NamesTargets (visit : Visit) : Prop :=
  ∀ target w o after, visit target w = (some o, after) → o.domain = target.text

def MadeBy (visit : Visit) (o : Outcome) : Prop :=
  ∃ target w after, visit target w = (some o, after)

namespace Visits

variable {visit : Visit} {w after : Walk} {targets : List DomainName} {kids : List Outcome}

theorem length_eq (visits : Visits visit w targets kids after) : kids.length = targets.length := by
  induction visits with
  | none => rfl
  | next _ _ ih => exact congrArg (· + 1) ih

theorem domains (names : NamesTargets visit) (visits : Visits visit w targets kids after) :
    kids.map (·.domain) = targets.map (·.text) := by
  induction visits with
  | none => rfl
  | next made _ ih => rw [List.map_cons, List.map_cons, ih, names _ _ _ _ made]

theorem madeBy (visits : Visits visit w targets kids after) :
    ∀ kid ∈ kids, MadeBy visit kid := by
  induction visits with
  | none => simp
  | next made _ ih => exact List.forall_mem_cons.mpr ⟨⟨_, _, _, made⟩, ih⟩

theorem concat {last : DomainName} {child : Outcome} {final : Walk}
    (visits : Visits visit w targets kids after)
    (made : visit last after.spend = (some child, final)) :
    Visits visit w (targets ++ [last]) (kids ++ [child]) final := by
  induction visits with
  | none w => exact .next made (.none final)
  | next first _ ih => exact .next first (ih made)

end Visits

def targetsOf : Option Record → List DomainName
  | none => []
  | some record => record.includes ++ record.redirect.toList

theorem childrenOf_eq_targetsOf (resolver : Resolver) (name : DomainName) :
    childrenOf resolver name = targetsOf (recordAt resolver name) := by
  unfold childrenOf
  cases recordAt resolver name <;> rfl

namespace Course

variable {limits : Limits} {visit : Visit} {start o : Outcome} {w after : Walk}
  {record : Option Record}

theorem keeps (course : Course limits visit start w record o after) :
    o.domain = start.domain ∧ o.record = start.record ∧ o.parsed = start.parsed := by
  cases course <;> exact ⟨rfl, rfl, rfl⟩

theorem children_visited (childless : start.children = [])
    (course : Course limits visit start w record o after) :
    ∃ met rest, targetsOf record = met ++ rest ∧ Visits visit w met o.children after := by
  obtain ⟨noIncludes, noRedirect⟩ := List.append_eq_nil_iff.mp childless
  have shown : ∀ met kids between, Visits visit w met kids between →
      Visits visit w met (start.addIncludes kids).children between := by
    intro met kids between visits
    change Visits visit w met ((start.includes ++ kids) ++ start.redirect.toList) between
    rwa [noIncludes, noRedirect, List.nil_append, List.append_nil]
  cases course with
  | unread => exact ⟨[], [], rfl, childless ▸ .none w⟩
  | @shortOfIncludes record met later next _ _ split visits _ =>
      refine ⟨met, next :: later ++ record.redirect.toList, ?_, shown _ _ _ visits⟩
      rw [targetsOf, split, List.append_assoc]
  | unsound visits _ => exact ⟨_, _, rfl, shown _ _ _ visits⟩
  | ended visits _ => exact ⟨_, _, rfl, shown _ _ _ visits⟩
  | shortOfRedirect visits _ _ _ => exact ⟨_, _, rfl, shown _ _ _ visits⟩
  | @redirected record target kids child _ _ visits _ redirect made =>
      refine ⟨record.includes ++ [target], [], ?_, ?_⟩
      · rw [targetsOf, redirect, List.append_nil, Option.toList_some]
      · change Visits visit w _ ((start.includes ++ kids) ++ [child]) _
        rw [noIncludes, List.nil_append]
        exact visits.concat made

theorem madeBy (childless : start.children = [])
    (course : Course limits visit start w record o after) :
    ∀ child ∈ o.children, MadeBy visit child := by
  obtain ⟨_, _, _, visits⟩ := course.children_visited childless
  exact visits.madeBy

end Course

def Problem.isRefusal : Problem → Bool
  | .tooDeep _ | .circular _ | .tooManyLookups .. | .badName _ => true
  | _ => false

theorem refusal?_isRefusal (limits : Limits) (levels : Nat) (visited : List String)
    (spent : Nat) (target : Target) (p : Problem)
    (refused : refusal? limits levels visited spent target = some p) : p.isRefusal = true := by
  unfold refusal? at refused
  split at refused
  · cases refused
    rfl
  · split at refused
    · cases refused
      rfl
    · split at refused
      · cases refused
        rfl
      · split at refused
        · cases refused
          rfl
        · cases refused

/-- How a node of a tree comes about. -/
inductive Origin (resolver : Resolver) (limits : Limits) (o : Outcome) : Prop
  | unread (p : Problem) (cause : p.isRefusal = true ∨ p = .timedOut limits.timeoutMs)
      (same : o = .failed o.domain p)
  | read (name : DomainName) (visit : Visit) (w after : Walk) (names : NamesTargets visit)
      (course : Course limits visit (reading name (resolver name).texts) w
        (recordAt resolver name) o after)

theorem visit_domain (resolver : Resolver) (limits : Limits) (levels : Nat)
    (visited : List String) (enclosing : Option Nat) (name : DomainName) (w after : Walk)
    (o : Outcome)
    (run : visit resolver limits levels visited enclosing (.ofName name) w = (some o, after)) :
    o.domain = name.text := by
  rcases visit_cases resolver limits levels visited enclosing _ w after o run with
    ⟨p, _, rfl⟩ | ⟨below, _, _, ⟨⟩, ⟨_, rfl⟩ | ⟨answered, _, course⟩⟩
  · rfl
  · rfl
  · exact course.keeps.1

theorem visitBelow_names (resolver : Resolver) (limits : Limits) (levels : Nat)
    (visited : List String) (name : DomainName) (deadline : Nat) :
    NamesTargets (visitBelow resolver limits levels visited name deadline) :=
  fun target w o after run => visit_domain resolver limits levels _ _ target w after o run

theorem visit_origin (resolver : Resolver) (limits : Limits) (levels : Nat)
    (visited : List String) (enclosing : Option Nat) (target : Target) (w after : Walk)
    (o : Outcome)
    (run : visit resolver limits levels visited enclosing target w = (some o, after)) :
    ∀ node ∈ o.nodes, Origin resolver limits node := by
  -- The children of a node are visited with one level less.
  induction levels generalizing visited enclosing target w after o with
  | zero =>
      cases run
      intro node inTree
      obtain rfl := List.mem_singleton.mp inTree
      exact .unread _ (Or.inl rfl) rfl
  | succ below ih =>
      intro node inTree
      rcases visit_cases resolver limits (below + 1) visited enclosing target w after o run with
        ⟨p, refused, rfl⟩ | ⟨_, name, ⟨⟩, _, ⟨_, rfl⟩ | ⟨answered, _, course⟩⟩
      · obtain rfl := List.mem_singleton.mp inTree
        exact .unread p (Or.inl (refusal?_isRefusal limits _ visited w.spent target p refused)) rfl
      · obtain rfl := List.mem_singleton.mp inTree
        exact .unread _ (Or.inr rfl) rfl
      · rcases (Outcome.mem_nodes o node).mp inTree with rfl | ⟨child, isChild, inChild⟩
        · exact .read name _ answered after (visitBelow_names resolver limits below visited name _)
            course
        · obtain ⟨next, walk, later, made⟩ := course.madeBy rfl child isChild
          exact ih _ _ _ _ _ _ made node inChild

theorem evaluateFrom_origin (resolver : Resolver) (limits : Limits) (domain : String)
    (depth : Nat) (visited : List String) (spent : Nat) :
    ∀ node ∈ (evaluateFrom resolver limits domain depth visited spent).1.nodes,
      Origin resolver limits node :=
  visit_origin resolver limits _ visited none _ _ _ _
    (evaluateFrom_eq resolver limits domain depth visited spent)

end SenderAudit.Spf
