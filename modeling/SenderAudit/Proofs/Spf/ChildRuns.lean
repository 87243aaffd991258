import SenderAudit.Proofs.CanonicalName
import SenderAudit.Proofs.Spf.Undelayed

/-!
A node's children as evaluations of their own, in zones without delay. Each child is what
its target evaluates to one level further down, from the spending that its elder siblings
leave; the lookups of the node are its own and theirs, in order.
-/
namespace SenderAudit.Spf

theorem ofText_text (name : DomainName) : Target.ofText name.text = .ofName name := by
  rw [Target.ofText, Target.ofName, DomainName.spelling_text, LookupFailure.parseName_text]

/-- Evaluates the target of a lead from a budget that is partly spent. -/
abbrev Below := DomainName → Nat → Outcome × Walk

/-- The visits of targets are evaluations, taken up where the walk stands. -/
def Resumes (visit : Visit) (below : Below) : Prop :=
  ∀ target w, visit target w =
    w.ahead (some (below target w.spent).1, (below target w.spent).2)

/-- An evaluation spends one lookup for each node below its root. -/
def SpendsItsNodes (below : Below) : Prop :=
  ∀ target spent,
    (below target spent).2.spent = spent + (below target spent).1.descendants.length

def includeRuns (limits : Limits) (below : Below) : List DomainName → Nat →
    List (Outcome × Walk)
  | [], _ => []
  | target :: rest, spent =>
      if spent ≥ limits.maxIncludes then []
      else below target (spent + 1) ::
        includeRuns limits below rest (below target (spent + 1)).2.spent

theorem next_spent (below : Below) (spends : SpendsItsNodes below) (target : DomainName)
    (spent : Nat) :
    (below target (spent + 1)).2.spent = spent + (below target (spent + 1)).1.nodes.length := by
  rw [spends, Outcome.nodes_length]
  omega

theorem includeRuns_getElem? (limits : Limits) (below : Below) (spends : SpendsItsNodes below)
    (targets : List DomainName) (spent number : Nat) (run : Outcome × Walk)
    (found : (includeRuns limits below targets spent)[number]? = some run) :
    ∃ target, targets[number]? = some target ∧ run = below target (spent +
      (((includeRuns limits below targets spent).take number).map (·.1.nodes.length)).sum
        + 1) := by
  induction targets generalizing spent number with
  | nil => cases found
  | cons target rest ih =>
      simp only [includeRuns] at found ⊢
      split at found
      · cases found
      · rename_i affordable
        simp only [affordable, ↓reduceIte]
        cases number with
        | zero =>
            cases found
            exact ⟨target, rfl, by simp⟩
        | succ number =>
            obtain ⟨later, isTarget, isRun⟩ := ih _ number found
            refine ⟨later, isTarget, ?_⟩
            rw [isRun, List.take_succ_cons, List.map_cons, List.sum_cons, ← Nat.add_assoc,
              ← next_spent below spends]

structure IncludesVisited (o result : Outcome) (w after : Walk)
    (runs : List (Outcome × Walk)) : Prop where
  includes : result.includes = o.includes ++ runs.map Prod.fst
  redirect : result.redirect = o.redirect
  parsed : result.parsed = o.parsed
  queried : after.queried = w.queried ++ runs.flatMap (·.2.queried)
  spent : after.spent = w.spent + (runs.map (·.1.nodes.length)).sum

theorem followIncludes_runs (limits : Limits) (visit : Visit) (below : Below)
    (resumes : Resumes visit below) (spends : SpendsItsNodes below)
    (targets : List DomainName) (sound : Bool) (o : Outcome) (w : Walk) :
    ∃ result sound' after,
      followIncludes limits visit targets sound o w = (some (result, sound'), after) ∧
        IncludesVisited o result w after (includeRuns limits below targets w.spent) ∧
        (sound' = true →
          (includeRuns limits below targets w.spent).length = targets.length) := by
  induction targets generalizing sound o w with
  | nil =>
      refine ⟨o, sound, w, rfl, ⟨?_, rfl, rfl, ?_, ?_⟩, fun _ => rfl⟩
      · simp [includeRuns]
      · simp [includeRuns]
      · simp [includeRuns]
  | cons target rest ih =>
      simp only [followIncludes, includeRuns]
      by_cases exhausted : w.spent ≥ limits.maxIncludes
      · simp only [exhausted, ↓reduceIte]
        exact ⟨_, false, w, rfl, ⟨by simp [Outcome.fail], rfl, rfl, by simp, by simp⟩,
          by simp⟩
      · simp only [exhausted, ↓reduceIte, resumes target w.spend, Walk.ahead]
        obtain ⟨result, sound', after, run, visited, complete⟩ :=
          ih (sound && (below target w.spend.spent).1.valid)
            (o.addInclude (below target w.spend.spent).1)
            { w.spend with
              spent := (below target w.spend.spent).2.spent
              queried := w.spend.queried ++ (below target w.spend.spent).2.queried }
        refine ⟨result, sound', after, run, ⟨?_, visited.redirect, visited.parsed, ?_, ?_⟩,
          ?_⟩
        · rw [visited.includes]
          simp [Outcome.addInclude, Outcome.absorb, Walk.spend]
        · rw [visited.queried]
          simp [Walk.spend]
        · rw [visited.spent]
          simp only [Walk.spend, List.map_cons, List.sum_cons]
          rw [next_spent below spends, Nat.add_assoc]
        · intro isSound
          exact congrArg (· + 1) (complete isSound)

/-- The evaluations behind the children of `o`, the outcome at a node with `record` that is
reached after `spent` lookups: those of its includes in order, and that of its redirect. -/
structure ChildRuns (below : Below) (record : Record) (spent : Nat) (o : Outcome)
    (runs : List (Outcome × Walk)) (last : Option (Outcome × Walk)) : Prop where
  includes : o.includes = runs.map Prod.fst
  redirect : o.redirect = last.map Prod.fst
  included : ∀ number run, runs[number]? = some run →
    ∃ target, record.includes[number]? = some target ∧
      run = below target (spent + (number + 1) +
        ((o.includes.take number).map (·.descendants.length)).sum)
  redirected : ∀ run, last = some run →
    ∃ target, record.redirect = some target ∧
      run = below target (spent + record.includes.length + 1 +
        (o.includes.map (·.descendants.length)).sum)

structure Followed (w : Walk) (result : Outcome) (after : Walk)
    (runs : List (Outcome × Walk)) (last : Option (Outcome × Walk)) : Prop where
  queried : after.queried = w.queried ++ (runs ++ last.toList).flatMap (·.2.queried)
  spent : after.spent = w.spent + result.descendants.length

theorem included_runs (limits : Limits) (below : Below) (spends : SpendsItsNodes below)
    (record : Record) (spent number : Nat) (run : Outcome × Walk)
    (found : (includeRuns limits below record.includes spent)[number]? = some run) :
    ∃ target, record.includes[number]? = some target ∧
      run = below target (spent + (number + 1) +
        ((((includeRuns limits below record.includes spent).map Prod.fst).take number).map
          (·.descendants.length)).sum) := by
  obtain ⟨target, isTarget, isRun⟩ :=
    includeRuns_getElem? limits below spends record.includes spent number run found
  refine ⟨target, isTarget, ?_⟩
  have inside := (List.getElem?_eq_some_iff.mp found).1
  have elder := Outcome.sum_nodes_length
    (((includeRuns limits below record.includes spent).map Prod.fst).take number)
  rw [List.length_take, List.length_map, Nat.min_eq_left (Nat.le_of_lt inside)] at elder
  rw [isRun, ← List.map_take, List.map_map] at *
  congr 1
  simp only [Function.comp_def, List.map_map] at elder ⊢
  omega

theorem visited_includes (o result : Outcome) (w walk : Walk) (runs : List (Outcome × Walk))
    (childless : o.children = []) (visited : IncludesVisited o result w walk runs) :
    result.includes = runs.map Prod.fst := by
  obtain ⟨noIncludes, _⟩ := List.append_eq_nil_iff.mp childless
  rw [visited.includes, noIncludes, List.nil_append]

-- A redirect is followed only after all includes, so it comes after all their nodes.
theorem childRuns_of_visited (limits : Limits) (below : Below) (spends : SpendsItsNodes below)
    (record : Record) (o result final : Outcome) (w walk : Walk)
    (last : Option (Outcome × Walk))
    (visited : IncludesVisited o result w walk
      (includeRuns limits below record.includes w.spent))
    (includes : final.includes =
      (includeRuns limits below record.includes w.spent).map Prod.fst)
    (redirect : final.redirect = last.map Prod.fst)
    (redirected : ∀ run, last = some run → ∃ target, record.redirect = some target ∧
      (includeRuns limits below record.includes w.spent).length = record.includes.length ∧
      run = below target (walk.spent + 1)) :
    ChildRuns below record w.spent final (includeRuns limits below record.includes w.spent)
      last := by
  refine ⟨includes, redirect, ?_, ?_⟩
  · rw [includes]
    exact included_runs limits below spends record w.spent
  · intro run isLast
    obtain ⟨target, isTarget, complete, isRun⟩ := redirected run isLast
    refine ⟨target, isTarget, ?_⟩
    have counted := Outcome.sum_nodes_length final.includes
    rw [includes, List.length_map, complete, List.map_map, ← includes] at counted
    rw [isRun, visited.spent]
    congr 1
    simp only [Function.comp_def] at counted
    omega

theorem followed_of_visited (o result final : Outcome) (w walk after : Walk)
    (runs : List (Outcome × Walk)) (last : Option (Outcome × Walk))
    (visited : IncludesVisited o result w walk runs)
    (includes : final.includes = runs.map Prod.fst) (redirect : final.redirect = last.map Prod.fst)
    (queried : after.queried = walk.queried ++ last.toList.flatMap (·.2.queried))
    (spent : after.spent = walk.spent + (last.toList.map (·.1.nodes.length)).sum) :
    Followed w final after runs last := by
  constructor
  · rw [queried, visited.queried, List.flatMap_append, List.append_assoc]
  · have redirected : (final.redirect.toList.map (·.nodes.length)).sum =
        (last.toList.map (·.1.nodes.length)).sum := by
      rw [redirect]
      cases last <;> rfl
    rw [spent, visited.spent, Outcome.descendants_length, redirected, includes, List.map_map,
      Nat.add_assoc]
    rfl

theorem follow_runs (limits : Limits) (visit : Visit) (below : Below)
    (resumes : Resumes visit below) (spends : SpendsItsNodes below) (record : Record)
    (o : Outcome) (w : Walk) (childless : o.children = []) :
    ∃ final after runs last, follow limits visit record o w = (some final, after) ∧
      final.parsed = o.parsed ∧ ChildRuns below record w.spent final runs last ∧
        Followed w final after runs last := by
  obtain ⟨result, sound, walk, run, visited, complete⟩ :=
    followIncludes_runs limits visit below resumes spends record.includes true o w
  have shown := visited_includes o result w walk _ childless visited
  have noRedirect : result.redirect = none := by
    rw [visited.redirect]
    exact Option.toList_eq_nil_iff.mp (List.append_eq_nil_iff.mp childless).2
  -- Without a visit of the redirect, the outcome differs from `result` in its problems at most.
  have still : ∀ final : Outcome, final.includes = result.includes →
      final.redirect = result.redirect →
      ChildRuns below record w.spent final (includeRuns limits below record.includes w.spent)
          none ∧
        Followed w final walk (includeRuns limits below record.includes w.spent) none := by
    intro final includes redirect
    constructor
    · exact childRuns_of_visited limits below spends record o result final w walk none visited
        (includes.trans shown) (redirect.trans noRedirect) (by rintro _ ⟨⟩)
    · exact followed_of_visited o result final w walk walk _ none visited
        (includes.trans shown) (redirect.trans noRedirect) (by simp) (by simp)
  simp only [follow, run]
  cases sound with
  | false => exact ⟨result, walk, _, none, rfl, visited.parsed, still result rfl rfl⟩
  | true =>
      cases redirect : record.redirect with
      | none => exact ⟨result, walk, _, none, rfl, visited.parsed, still result rfl rfl⟩
      | some target =>
          simp only [followRedirect]
          by_cases exhausted : walk.spent ≥ limits.maxIncludes
          · simp only [exhausted, ↓reduceIte]
            exact ⟨_, walk, _, none, rfl, visited.parsed, still (result.fail _) rfl rfl⟩
          · simp only [exhausted, ↓reduceIte, resumes target walk.spend, Walk.ahead]
            refine ⟨_, _, includeRuns limits below record.includes w.spent,
              some (below target (walk.spent + 1)), rfl, visited.parsed, ?_, ?_⟩
            · refine childRuns_of_visited limits below spends record o result _ w walk _ visited
                ?_ ?_ ?_
              · exact shown
              · rfl
              · rintro _ ⟨⟩
                exact ⟨target, redirect, complete rfl, rfl⟩
            · refine followed_of_visited o result _ w walk _ _ _ visited ?_ ?_ ?_ ?_
              · exact shown
              · rfl
              · simp [Walk.spend]
              · simp only [Walk.spend, Option.toList_some, List.map_cons, List.map_nil,
                  List.sum_singleton]
                exact next_spent below spends target walk.spent

def evaluateBelow (resolver : Resolver) (limits : Limits) (depth : Nat)
    (visited : List String) (name : DomainName) : Below :=
  fun target spent =>
    evaluateFrom resolver limits target.text (depth + 1) (visited ++ [name.text]) spent

theorem visitBelow_resumes (resolver : Resolver) (undelayed : Undelayed resolver)
    (limits : Limits) (levels depth : Nat) (left : limits.maxDepth + 1 - depth = levels + 1)
    (visited : List String) (name : DomainName) (deadline : Nat) :
    Resumes (visitBelow resolver limits levels visited name deadline)
      (evaluateBelow resolver limits depth visited name) := by
  intro target w
  have oneLess : levels = limits.maxDepth + 1 - (depth + 1) := by omega
  rw [visitBelow, visit_framed resolver undelayed, ← ofText_text, oneLess, evaluateFrom_eq]
  rfl

theorem evaluateFrom_undelayed (resolver : Resolver) (undelayed : Undelayed resolver)
    (limits : Limits) (domain : String) (depth : Nat) (visited : List String) (spent : Nat)
    (o : Outcome) (walk : Walk)
    (run : visit resolver limits (limits.maxDepth + 1 - depth) visited none (.ofText domain)
      { spent := spent } = (some o, walk)) :
    (o.children = [] ∧ o.parsed = none ∧ walk.spent = spent) ∨
    ∃ name record start visit, DomainName.parse domain = .ok name ∧
      depth ≤ limits.maxDepth ∧ start.children = [] ∧ start.parsed = some record ∧
      Resumes visit (evaluateBelow resolver limits depth visited name) ∧
      follow limits visit record start { spent := spent, queried := [name] } =
        (some o, walk) := by
  rcases refusal_cases limits (limits.maxDepth + 1 - depth) visited spent (.ofText domain) with
    ⟨p, refused⟩ | ⟨below, name, left, fresh, affordable, named⟩
  · rw [visit_refused resolver limits _ visited none _ { spent := spent } p refused] at run
    cases run
    exact Or.inl ⟨rfl, rfl, rfl⟩
  · rw [left, visit_undelayed resolver undelayed limits below visited none (.ofText domain)
      { spent := spent } name fresh affordable named] at run
    rcases assess_cases name (resolver name).texts with
      ⟨_, failed, deadEnd, ends⟩ | ⟨record, start, _, begins, follows⟩
    · rw [ends] at run
      cases run
      exact Or.inl ⟨deadEnd.childless, deadEnd.unparsed, rfl⟩
    · rw [follows, ← follow_eq_followLeads] at run
      exact Or.inr ⟨name, record, start, _, (LookupFailure.parseName_ok domain name).mp named,
        by omega, begins.childless, begins.parsed,
        visitBelow_resumes resolver undelayed limits below depth left visited name _, run⟩

theorem evaluateFrom_spends (resolver : Resolver) (undelayed : Undelayed resolver)
    (limits : Limits) (levels : Nat) (domain : String) (depth : Nat)
    (left : limits.maxDepth + 1 - depth = levels) (visited : List String) (spent : Nat) :
    (evaluateFrom resolver limits domain depth visited spent).2.spent = spent +
      (evaluateFrom resolver limits domain depth visited spent).1.descendants.length := by
  induction levels generalizing domain depth visited spent with
  | zero =>
      rcases evaluateFrom_undelayed resolver undelayed limits domain depth visited spent _ _
        (evaluateFrom_eq resolver limits domain depth visited spent) with ⟨childless, _, still⟩ | ⟨_, _, _, _, _, shallow, _⟩
      · rw [Outcome.descendants, childless]
        exact still
      · omega
  | succ levels ih =>
      rcases evaluateFrom_undelayed resolver undelayed limits domain depth visited spent _ _
        (evaluateFrom_eq resolver limits domain depth visited spent) with ⟨childless, _, still⟩ | ⟨name, record, start, visit, _, _, childless, _,
          resumes, follows⟩
      · rw [Outcome.descendants, childless]
        exact still
      · have spends : SpendsItsNodes (evaluateBelow resolver limits depth visited name) :=
          fun target spent => ih target.text (depth + 1) (by omega) _ spent
        obtain ⟨final, after, runs, last, run, _, _, followed⟩ := follow_runs limits visit _
          resumes spends record start { spent := spent, queried := [name] } childless
        rw [follows] at run
        cases run
        exact followed.spent

/-- The children of a node with a record are evaluations of their own, one level further
down and below the node's name, each from the spending that the nodes before it leave. The
node's lookups are its own and then theirs. -/
theorem evaluateFrom_childRuns (resolver : Resolver) (undelayed : Undelayed resolver)
    (limits : Limits) (domain : String) (depth : Nat) (visited : List String) (spent : Nat)
    (record : Record)
    (parsed : (evaluateFrom resolver limits domain depth visited spent).1.parsed =
      some record) :
    ∃ name runs last, DomainName.parse domain = .ok name ∧
      ChildRuns (fun target spent =>
          evaluateFrom resolver limits target.text (depth + 1) (visited ++ [name.text]) spent)
        record spent (evaluateFrom resolver limits domain depth visited spent).1 runs last ∧
      (evaluateFrom resolver limits domain depth visited spent).2.queried =
        name :: (runs ++ last.toList).flatMap (·.2.queried) := by
  rcases evaluateFrom_undelayed resolver undelayed limits domain depth visited spent _ _
    (evaluateFrom_eq resolver limits domain depth visited spent) with ⟨_, unparsed, _⟩ | ⟨name, found, start, visit, denotes, _, childless, begins,
      resumes, follows⟩
  · rw [unparsed] at parsed
    cases parsed
  · have spends : SpendsItsNodes (evaluateBelow resolver limits depth visited name) :=
      fun target spent => evaluateFrom_spends resolver undelayed limits _ target.text
        (depth + 1) rfl _ spent
    obtain ⟨final, after, runs, last, run, same, children, followed⟩ := follow_runs limits
      visit _ resumes spends found start { spent := spent, queried := [name] } childless
    rw [follows] at run
    cases run
    rw [same, begins] at parsed
    cases parsed
    exact ⟨name, runs, last, denotes, children, followed.queried⟩

def familyZone : Resolver := fun name =>
  if name.text = "a.example" then
    ⟨.ok ["v=spf1 include:b.example include:d.example redirect=e.example"], 0⟩
  else if name.text = "b.example" then ⟨.ok ["v=spf1 include:c.example ?all"], 0⟩
  else ⟨.ok ["v=spf1 -all"], 0⟩

-- All three children are visited here, the redirect with the last lookup of the budget.
theorem familyZone_childRuns :
    Undelayed familyZone ∧
      (evaluateFrom familyZone ⟨3, 6, 0⟩ "a.example" 1 ["z.example"] 2).1.includes.length = 2 ∧
      (evaluateFrom familyZone ⟨3, 6, 0⟩ "a.example" 1 ["z.example"] 2).1.redirect.isSome ∧
      ∃ record, (evaluateFrom familyZone ⟨3, 6, 0⟩ "a.example" 1 ["z.example"] 2).1.parsed =
          some record ∧
        ∃ name runs last, DomainName.parse "a.example" = .ok name ∧
          ChildRuns (fun target spent => evaluateFrom familyZone ⟨3, 6, 0⟩ target.text 2
              (["z.example"] ++ [name.text]) spent)
            record 2 (evaluateFrom familyZone ⟨3, 6, 0⟩ "a.example" 1 ["z.example"] 2).1 runs
            last ∧
          (evaluateFrom familyZone ⟨3, 6, 0⟩ "a.example" 1 ["z.example"] 2).2.queried =
            name :: (runs ++ last.toList).flatMap (·.2.queried) := by
  have undelayed : Undelayed familyZone := by
    intro name
    simp only [familyZone]
    split
    · rfl
    · split <;> rfl
  have read : (evaluateFrom familyZone ⟨3, 6, 0⟩ "a.example" 1 ["z.example"]
      2).1.parsed.isSome = true := by decide +kernel
  obtain ⟨record, parsed⟩ := Option.isSome_iff_exists.mp read
  exact ⟨undelayed, by decide +kernel, by decide +kernel, record, parsed,
    evaluateFrom_childRuns familyZone undelayed ⟨3, 6, 0⟩ "a.example" 1 ["z.example"] 2 record
      parsed⟩

end SenderAudit.Spf
