import SenderAudit.Proofs.Spf.Visit

/-!
Limits that do not bind. A valid outcome shows that no limit cut anything off anywhere in
the tree, so the walk under looser limits repeats it step by step: the same lookups at the
same times, with deadlines that are no earlier.
-/
namespace SenderAudit.Spf

structure Limits.AtMost (strict loose : Limits) : Prop where
  maxDepth : strict.maxDepth ≤ loose.maxDepth
  maxIncludes : strict.maxIncludes ≤ loose.maxIncludes
  timeoutMs : strict.timeoutMs ≤ loose.timeoutMs

/-- A later deadline around a node, or none. -/
def LaterThan (strict loose : Option Nat) : Prop :=
  ∀ late, loose = some late → ∃ early, strict = some early ∧ early ≤ late

theorem deadlineAt_le (strict loose : Limits) (order : strict.AtMost loose)
    (enclosing enclosing' : Option Nat) (later : LaterThan enclosing enclosing') (now : Nat) :
    deadlineAt strict enclosing now ≤ deadlineAt loose enclosing' now := by
  have timeout := order.timeoutMs
  unfold deadlineAt
  cases enclosing' with
  | none => cases enclosing <;> simp <;> omega
  | some late =>
      obtain ⟨early, rfl, earlier⟩ := later late rfl
      simp only [Option.map_some, Option.getD_some]
      omega

theorem ask_later (w : Walk) (resolver : Resolver) (name : DomainName)
    (deadline deadline' : Nat) (later : deadline ≤ deadline')
    (answer : Except LookupFailure (List String)) (after : Walk)
    (asked : w.ask resolver deadline name = (some answer, after)) :
    w.ask resolver deadline' name = (some answer, after) := by
  simp only [Walk.ask] at asked ⊢
  by_cases prompt : (resolver name).delayMs = 0
  · simpa only [prompt, ↓reduceIte] using asked
  · by_cases inTime : w.clock + (resolver name).delayMs ≤ deadline
    · have stillInTime := Nat.le_trans inTime later
      simpa only [prompt, inTime, stillInTime, ↓reduceIte] using asked
    · simp [prompt, inTime] at asked

-- One walk along leads repeats another if their visits agree wherever the first finds
-- a valid outcome.
theorem followLeads_looser (strict loose : Limits) (order : strict.AtMost loose)
    (visit visit' : Visit)
    (repeats : ∀ target w o after, visit target w = (some o, after) → o.valid = true →
      visit' target w = (some o, after))
    (leads : List (Relation × DomainName)) (sound : Bool) (o result : Outcome)
    (w after : Walk)
    (run : followLeads strict visit leads sound o w = (some result, after))
    (valid : result.valid = true) :
    followLeads loose visit' leads sound o w = (some result, after) := by
  induction leads generalizing sound o w with
  | nil => exact run
  | cons lead rest ih =>
      obtain ⟨relation, target⟩ := lead
      simp only [followLeads] at run ⊢
      by_cases passedOver : relation = .redirected ∧ sound = false
      · simpa only [passedOver, and_self, ↓reduceIte] using run
      · by_cases exhausted : w.spent ≥ strict.maxIncludes
        · -- Short of budget, the outcome would have failed.
          simp only [passedOver, exhausted, ↓reduceIte] at run
          cases run
          cases valid
        · have affordable : ¬ w.spent ≥ loose.maxIncludes := by
            have := order.maxIncludes
            omega
          simp only [passedOver, exhausted, affordable, ↓reduceIte] at run ⊢
          cases made : visit target w.spend with
          | mk found walk =>
              rw [made] at run
              cases found with
              | none => cases run
              | some child =>
                  -- The child is valid as well, or the outcome that adopts it were not.
                  have adopted := followLeads_valid strict visit rest _ _ _ _ _ run valid
                  rw [Outcome.adopt_valid, Bool.and_eq_true] at adopted
                  rw [repeats target w.spend child walk made adopted.2]
                  exact ih _ _ _ run

theorem explore_looser (resolver : Resolver) (strict loose : Limits)
    (order : strict.AtMost loose) (levels levels' : Nat) (visited : List String)
    (deadline deadline' : Nat) (later : deadline ≤ deadline') (name : DomainName)
    (w : Walk)
    (repeats : ∀ target walk o after,
      visitBelow resolver strict levels visited name deadline target walk = (some o, after) →
      o.valid = true →
      visitBelow resolver loose levels' visited name deadline' target walk = (some o, after))
    (o : Outcome) (after : Walk)
    (run : explore resolver strict levels visited deadline name w = (some o, after))
    (valid : o.valid = true) :
    explore resolver loose levels' visited deadline' name w = (some o, after) := by
  unfold explore at run ⊢
  cases asked : w.ask resolver deadline name with
  | mk found walk =>
      rw [asked] at run
      cases found with
      | none => cases run
      | some answer =>
          rw [ask_later w resolver name deadline deadline' later answer walk asked]
          dsimp only at run ⊢
          rcases assess_cases name answer with
            ⟨_, failed, deadEnd, ends⟩ | ⟨record, start, _, _, follows⟩
          · rw [ends] at run
            cases run
            rw [deadEnd.invalid] at valid
            cases valid
          · rw [follows] at run ⊢
            exact followLeads_looser strict loose order _ _ repeats record.leads true start o
              walk after run valid

theorem visit_looser (resolver : Resolver) (strict loose : Limits)
    (order : strict.AtMost loose) (levels levels' : Nat) (deeper : levels ≤ levels')
    (visited : List String) (enclosing enclosing' : Option Nat)
    (later : LaterThan enclosing enclosing') (target : Target) (w : Walk) (o : Outcome)
    (after : Walk)
    (run : visit resolver strict levels visited enclosing target w = (some o, after))
    (valid : o.valid = true) :
    visit resolver loose levels' visited enclosing' target w = (some o, after) := by
  -- The induction is on the levels of the stricter walk; the looser one has at least as
  -- many left at every node, and its deadlines are never earlier.
  induction levels generalizing levels' visited enclosing enclosing' target w o after with
  | zero =>
      cases run
      cases valid
  | succ below ih =>
      rcases refusal_cases strict (below + 1) visited w.spent target with
        ⟨p, refused⟩ | ⟨_, name, ⟨⟩, fresh, affordable, named⟩
      · rw [visit_refused resolver strict _ visited enclosing target w p refused] at run
        cases run
        cases valid
      · obtain ⟨below', rfl⟩ : ∃ below', levels' = below' + 1 := ⟨levels' - 1, by omega⟩
        rw [visit_admitted resolver strict below visited enclosing target w name fresh
          affordable named] at run
        rw [visit_admitted resolver loose below' visited enclosing' target w name fresh
          (Nat.le_trans affordable order.maxIncludes) named]
        have later' := deadlineAt_le strict loose order enclosing enclosing' later w.clock
        have explored := settle_valid strict enclosing w.clock target.spelling _ o after run
          valid
        rw [explore_looser resolver strict loose order below below' visited _ _ later' name w
          ?_ o after explored valid]
        · rfl
        · intro next walk child walk' made childValid
          refine ih below' (by omega) _ _ _ ?_ _ _ _ _ made childValid
          rintro _ ⟨⟩
          exact ⟨_, rfl, later'⟩

/-- A valid evaluation is repeated under looser limits: the same tree, the same lookups in
the same order, the same time and the same spending. -/
theorem evaluateFrom_looser_limits (resolver : Resolver) (strict loose : Limits)
    (order : strict.AtMost loose) (domain : String) (depth : Nat) (visited : List String)
    (spent : Nat)
    (valid : (evaluateFrom resolver strict domain depth visited spent).1.valid = true) :
    evaluateFrom resolver loose domain depth visited spent =
      evaluateFrom resolver strict domain depth visited spent := by
  have run := evaluateFrom_eq resolver strict domain depth visited spent
  have repeated := visit_looser resolver strict loose order
    (strict.maxDepth + 1 - depth) (loose.maxDepth + 1 - depth)
    (by have := order.maxDepth; omega) visited none none (by rintro _ ⟨⟩) (.ofText domain)
    { spent := spent } _ _ run valid
  have run' := evaluateFrom_eq resolver loose domain depth visited spent
  rw [repeated] at run'
  obtain ⟨sameOutcome, sameWalk⟩ := Prod.mk.inj run'
  exact Prod.ext (Option.some.inj sameOutcome).symm sameWalk.symm

def slowZone : Resolver := fun name =>
  if name.text = "a.example" then ⟨.ok ["v=spf1 include:b.example redirect=c.example"], 40⟩
  else if name.text = "b.example" then ⟨.ok ["v=spf1 ip4:192.0.2.1 ?all"], 60⟩
  else ⟨.ok ["v=spf1 -all"], 0⟩

-- Each of the three limits is as strict as it can be here.
theorem slowZone_looser_limits :
    Limits.AtMost ⟨1, 2, 100⟩ {} ∧
      (evaluateFrom slowZone ⟨1, 2, 100⟩ "a.example" 0 [] 0).1.valid = true ∧
      evaluateFrom slowZone {} "a.example" 0 [] 0 =
        evaluateFrom slowZone ⟨1, 2, 100⟩ "a.example" 0 [] 0 := by
  have order : Limits.AtMost ⟨1, 2, 100⟩ {} := ⟨by decide, by decide, by decide⟩
  have valid : (evaluateFrom slowZone ⟨1, 2, 100⟩ "a.example" 0 [] 0).1.valid = true := by
    decide +kernel
  exact ⟨order, valid, evaluateFrom_looser_limits slowZone ⟨1, 2, 100⟩ {} order "a.example" 0
    [] 0 valid⟩

end SenderAudit.Spf
