import SenderAudit.Proofs.Spf.Visit

/-!
Zones whose lookups take no time. No deadline cuts anything short in them, and a visit
depends on the walk before it only through what that has spent.
-/
namespace SenderAudit.Spf

def Undelayed (resolver : Resolver) : Prop :=
  ∀ name, (resolver name).delayMs = 0

theorem ask_undelayed (w : Walk) (resolver : Resolver) (undelayed : Undelayed resolver)
    (deadline : Nat) (name : DomainName) :
    w.ask resolver deadline name =
      (some (resolver name).texts, { w with queried := w.queried ++ [name] }) := by
  simp only [Walk.ask, undelayed name, ↓reduceIte]

theorem explore_undelayed (resolver : Resolver) (undelayed : Undelayed resolver)
    (limits : Limits) (levels : Nat) (visited : List String) (deadline : Nat)
    (name : DomainName) (w : Walk) :
    explore resolver limits levels visited deadline name w =
      assess limits (visitBelow resolver limits levels visited name deadline) name
        (resolver name).texts { w with queried := w.queried ++ [name] } := by
  rw [explore, ask_undelayed w resolver undelayed]

theorem assess_found (limits : Limits) (visit : Visit) (arrives : Arrives visit)
    (name : DomainName) (answer : Except LookupFailure (List String)) (w : Walk) :
    ∃ o, (assess limits visit name answer w).1 = some o := by
  rcases assess_cases name answer with ⟨_, o, _, ends⟩ | ⟨record, o, _, _, follows⟩
  · exact ⟨o, congrArg Prod.fst (ends limits visit w)⟩
  · rw [follows]
    exact followLeads_found limits visit arrives record.leads true o w

-- Every visit comes to an outcome, whatever the deadlines around it.
theorem visit_found (resolver : Resolver) (undelayed : Undelayed resolver) (limits : Limits)
    (levels : Nat) (visited : List String) (enclosing : Option Nat) (target : Target)
    (w : Walk) : ∃ o, (visit resolver limits levels visited enclosing target w).1 = some o := by
  induction levels generalizing visited enclosing target w with
  | zero => exact ⟨_, rfl⟩
  | succ below ih =>
      rcases refusal_cases limits (below + 1) visited w.spent target with
        ⟨p, refused⟩ | ⟨_, name, ⟨⟩, fresh, affordable, named⟩
      · exact ⟨_, congrArg Prod.fst
          (visit_refused resolver limits _ visited enclosing target w p refused)⟩
      · rw [visit_admitted resolver limits below visited enclosing target w name fresh
          affordable named, explore_undelayed resolver undelayed]
        obtain ⟨o, found⟩ := assess_found limits
          (visitBelow resolver limits below visited name (deadlineAt limits enclosing w.clock))
          (fun next walk => ih _ _ (.ofName next) walk) name (resolver name).texts
          { w with queried := w.queried ++ [name] }
        exact ⟨o, by rw [settle_found _ _ _ _ _ o found, found]⟩

-- A visit that is not refused is decided by the answer at its name.
theorem visit_undelayed (resolver : Resolver) (undelayed : Undelayed resolver)
    (limits : Limits) (levels : Nat) (visited : List String) (enclosing : Option Nat)
    (target : Target) (w : Walk) (name : DomainName) (fresh : target.spelling ∉ visited)
    (affordable : w.spent ≤ limits.maxIncludes) (named : target.name = .ok name) :
    visit resolver limits (levels + 1) visited enclosing target w =
      assess limits
        (visitBelow resolver limits levels visited name (deadlineAt limits enclosing w.clock))
        name (resolver name).texts { w with queried := w.queried ++ [name] } := by
  rw [visit_admitted resolver limits levels visited enclosing target w name fresh affordable
    named, explore_undelayed resolver undelayed]
  obtain ⟨o, found⟩ := assess_found limits
    (visitBelow resolver limits levels visited name (deadlineAt limits enclosing w.clock))
    (fun next walk => visit_found resolver undelayed limits _ _ _ (.ofName next) walk) name
    (resolver name).texts { w with queried := w.queried ++ [name] }
  exact settle_found _ _ _ _ _ o found

/-! A walk that has come further than a fresh one finds the same as it, with its own
lookups before. -/

def Walk.ahead (w : Walk) (part : Part α) : Part α :=
  (part.1, { w with spent := part.2.spent, queried := w.queried ++ part.2.queried })

def Framed (visit : Visit) : Prop :=
  ∀ target w, visit target w = w.ahead (visit target { spent := w.spent })

theorem ahead_fresh (w : Walk) (result : α) :
    w.ahead (some result, { spent := w.spent }) = (some result, w) := by
  simp [Walk.ahead]

theorem ahead_ahead (w x : Walk) (part : Part α) :
    w.ahead (x.ahead part) = ({ w with queried := w.queried ++ x.queried } : Walk).ahead part := by
  simp [Walk.ahead]

theorem followLeads_framed (limits : Limits) (visit : Visit) (framed : Framed visit)
    (leads : List (Relation × DomainName)) (sound : Bool) (o : Outcome) (w : Walk) :
    followLeads limits visit leads sound o w =
      w.ahead (followLeads limits visit leads sound o { spent := w.spent }) := by
  induction leads generalizing sound o w with
  | nil => exact (ahead_fresh w o).symm
  | cons lead rest ih =>
      obtain ⟨relation, target⟩ := lead
      simp only [followLeads]
      by_cases passedOver : relation = .redirected ∧ sound = false
      · simp only [passedOver, and_self, ↓reduceIte, ahead_fresh]
      · by_cases exhausted : w.spent ≥ limits.maxIncludes
        · simp only [passedOver, exhausted, ↓reduceIte, ahead_fresh]
        · simp only [passedOver, exhausted, ↓reduceIte]
          have same : visit target ({ spent := w.spent } : Walk).spend =
              visit target { spent := w.spend.spent } := rfl
          rw [framed target w.spend, same]
          cases visit target { spent := w.spend.spent } with
          | mk found x =>
              cases found with
              | none => rfl
              | some child =>
                  dsimp only [Walk.ahead]
                  -- Both walks go on from the same spending, so both are fresh ones ahead.
                  rw [ih, ih _ _ x]
                  simp [Walk.ahead, Walk.spend]

theorem visit_framed (resolver : Resolver) (undelayed : Undelayed resolver)
    (limits : Limits) (levels : Nat) (visited : List String) (enclosing : Option Nat)
    (target : Target) (w : Walk) :
    visit resolver limits levels visited enclosing target w =
      w.ahead (visit resolver limits levels visited none target { spent := w.spent }) := by
  induction levels generalizing visited enclosing target w with
  | zero => exact (ahead_fresh w _).symm
  | succ below ih =>
      rcases refusal_cases limits (below + 1) visited w.spent target with
        ⟨p, refused⟩ | ⟨_, name, ⟨⟩, fresh, affordable, named⟩
      · rw [visit_refused resolver limits _ visited enclosing target w p refused,
          visit_refused resolver limits _ visited none target { spent := w.spent } p refused,
          ahead_fresh]
      · rw [visit_undelayed resolver undelayed limits below visited enclosing target w name
            fresh affordable named,
          visit_undelayed resolver undelayed limits below visited none target
            { spent := w.spent } name fresh affordable named]
        rcases assess_cases name (resolver name).texts with
          ⟨_, o, _, ends⟩ | ⟨record, o, _, _, follows⟩
        · rw [ends, ends]
          rfl
        · -- By induction the visits below depend on no deadline, so both sides make the same.
          let fromFresh : Visit := fun next walk => walk.ahead (visit resolver limits below
            (visited ++ [name.text]) none (.ofName next) { spent := walk.spent })
          have anyDeadline : ∀ deadline,
              visitBelow resolver limits below visited name deadline = fromFresh :=
            fun _ => funext fun next => funext fun walk => ih _ _ (.ofName next) walk
          have framed : Framed fromFresh := by
            intro next walk
            simp [fromFresh, ahead_ahead]
          rw [follows, follows, anyDeadline, anyDeadline,
            followLeads_framed limits _ framed _ _ _ { w with queried := w.queried ++ [name] },
            followLeads_framed limits _ framed _ _ _
              { spent := w.spent, queried := [] ++ [name] },
            ahead_ahead]
          rfl

end SenderAudit.Spf
