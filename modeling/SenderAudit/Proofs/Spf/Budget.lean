import SenderAudit.Proofs.Spf.Visit

/-!
The budget of lookups. One counter is shared by the whole tree: it goes up by one before
each child and never down, so what it has risen by pays for the lookups and the nodes
below the root, those of parts that a deadline discards included.
-/
namespace SenderAudit.Spf

/-- What a part of a walk from `before` does is paid for by what it spends: its lookups but
for `free` ones, and the nodes that its outcome has beyond `grown`. -/
structure Paid (limits : Limits) (free grown : Nat) (before : Walk) (part : Part Outcome) :
    Prop where
  grows : before.spent ≤ part.2.spent
  bounded : before.spent ≤ limits.maxIncludes → part.2.spent ≤ limits.maxIncludes
  lookups : part.2.queried.length + before.spent ≤
    before.queried.length + free + part.2.spent
  nodes : ∀ o, part.1 = some o → o.descendants.length + before.spent ≤ grown + part.2.spent

theorem paid_still (limits : Limits) (free grown : Nat) (w : Walk) (o : Outcome)
    (small : o.descendants.length ≤ grown) : Paid limits free grown w (some o, w) where
  grows := Nat.le_refl _
  bounded := id
  lookups := by dsimp only; omega
  nodes := by rintro _ ⟨⟩; dsimp only; omega

theorem paid_lead (limits : Limits) (o child : Outcome) (relation : Relation) (w after : Walk)
    (part : Part Outcome) (affordable : w.spent < limits.maxIncludes)
    (call : Paid limits 1 0 w.spend (some child, after))
    (rest : Paid limits 0 (o.adopt relation child).descendants.length after part) :
    Paid limits 0 o.descendants.length w part := by
  have spend : w.spend.spent = w.spent + 1 := rfl
  have queried : w.spend.queried = w.queried := rfl
  have callGrows := call.grows
  have callLookups := call.lookups
  have callNodes := call.nodes child rfl
  have adopted := Outcome.adopt_descendants_le o child relation
  have childNodes := Outcome.nodes_length child
  rw [spend] at callGrows callLookups callNodes
  rw [queried] at callLookups
  dsimp only at callGrows callLookups callNodes
  constructor
  · have := rest.grows
    omega
  · intro _
    exact rest.bounded (call.bounded (by omega))
  · have := rest.lookups
    omega
  · intro result found
    have := rest.nodes result found
    omega

-- A visit that is cut short ends the step, but what it has spent stays spent.
theorem paid_cut (limits : Limits) (grown : Nat) (w after : Walk)
    (affordable : w.spent < limits.maxIncludes)
    (call : Paid limits 1 0 w.spend ((none : Option Outcome), after)) :
    Paid limits 0 grown w (none, after) := by
  have spend : w.spend.spent = w.spent + 1 := rfl
  have queried : w.spend.queried = w.queried := rfl
  have grows := call.grows
  have lookups := call.lookups
  rw [spend] at grows lookups
  rw [queried] at lookups
  dsimp only at grows lookups
  constructor
  · dsimp only
    omega
  · intro _
    apply call.bounded
    rw [spend]
    exact affordable
  · dsimp only
    omega
  · intro o found
    cases found

/-- The run: leads followed one after another pay for all that they do. -/
theorem followLeads_paid (limits : Limits) (visit : Visit)
    (call : ∀ target w, Paid limits 1 0 w (visit target w))
    (leads : List (Relation × DomainName)) (sound : Bool) (o : Outcome) (w : Walk) :
    Paid limits 0 o.descendants.length w (followLeads limits visit leads sound o w) := by
  induction leads generalizing sound o w with
  | nil => exact paid_still limits 0 _ w o (Nat.le_refl _)
  | cons lead rest ih =>
      obtain ⟨relation, target⟩ := lead
      simp only [followLeads]
      split
      · exact paid_still limits 0 _ w o (Nat.le_refl _)
      · split
        · exact paid_still limits 0 _ w _ (Nat.le_of_eq (by rw [Outcome.fail_descendants]))
        · rename_i notSpent
          have affordable : w.spent < limits.maxIncludes := Nat.lt_of_not_le notSpent
          have paid := call target w.spend
          cases made : visit target w.spend with
          | mk result after =>
              rw [made] at paid
              cases result with
              | none => exact paid_cut limits _ w after affordable paid
              | some child =>
                  exact paid_lead limits o child relation w after _ affordable paid
                    (ih _ (o.adopt relation child) after)

theorem explore_paid (resolver : Resolver) (limits : Limits) (levels : Nat)
    (visited : List String) (deadline : Nat) (name : DomainName) (w : Walk)
    (call : ∀ target w, Paid limits 1 0 w
      (visitBelow resolver limits levels visited name deadline target w)) :
    Paid limits 1 0 w (explore resolver limits levels visited deadline name w) := by
  have spent := w.ask_spent resolver deadline name
  have queried := congrArg List.length (w.ask_queried resolver deadline name)
  rw [List.length_append, List.length_singleton] at queried
  unfold explore
  cases asked : w.ask resolver deadline name with
  | mk answer after =>
      rw [asked] at spent queried
      dsimp only at spent queried
      cases answer with
      | none =>
          -- Out of time: the lookup was made all the same, and is the free one.
          constructor
          · dsimp only
            omega
          · intro affordable
            dsimp only
            omega
          · dsimp only
            omega
          · intro o found
            cases found
      | some answer =>
          have followed : Paid limits 0 0 after (assess limits
              (visitBelow resolver limits levels visited name deadline) name answer after) := by
            rcases assess_cases name answer with
              ⟨_, o, deadEnd, ends⟩ | ⟨record, o, _, start, follows⟩
            · rw [ends]
              exact paid_still limits 0 0 after o
                (by simp [Outcome.descendants, deadEnd.childless])
            · rw [follows]
              have paid := followLeads_paid limits _ call record.leads true o after
              rwa [Outcome.descendants, start.childless] at paid
          obtain ⟨grows, bounded, lookups, nodes⟩ := followed
          rw [spent] at grows bounded lookups nodes
          rw [queried] at lookups
          exact ⟨grows, bounded, by omega, nodes⟩

theorem settle_paid (limits : Limits) (enclosing : Option Nat) (entered : Nat)
    (spelling : String) (w : Walk) (part : Part Outcome) (paid : Paid limits 1 0 w part) :
    Paid limits 1 0 w (settle limits enclosing entered spelling part) := by
  obtain ⟨result, after⟩ := part
  cases result with
  | some o => exact paid
  | none =>
      simp only [settle]
      split
      · -- The node fails and drops all below it, but the counter is not set back.
        refine ⟨paid.grows, paid.bounded, paid.lookups, ?_⟩
        rintro _ ⟨⟩
        have grows := paid.grows
        rw [Outcome.failed_descendants, List.length_nil]
        dsimp only at grows ⊢
        omega
      · exact paid

theorem visit_paid (resolver : Resolver) (limits : Limits) (levels : Nat)
    (visited : List String) (enclosing : Option Nat) (target : Target) (w : Walk) :
    Paid limits 1 0 w (visit resolver limits levels visited enclosing target w) := by
  induction levels generalizing visited enclosing target w with
  | zero => exact paid_still limits 1 0 w _ (Nat.le_refl _)
  | succ levels ih =>
      rcases refusal_cases limits (levels + 1) visited w.spent target with
        ⟨p, refused⟩ | ⟨_, name, ⟨⟩, fresh, affordable, named⟩
      · rw [visit_refused resolver limits _ visited enclosing target w p refused]
        exact paid_still limits 1 0 w _ (Nat.le_refl _)
      · rw [visit_admitted resolver limits levels visited enclosing target w name fresh
          affordable named]
        apply settle_paid
        exact explore_paid resolver limits levels visited _ name w
          fun next walk => ih _ _ (.ofName next) walk

theorem visit_overspent (resolver : Resolver) (limits : Limits) (levels : Nat)
    (visited : List String) (enclosing : Option Nat) (target : Target) (w : Walk)
    (overspent : limits.maxIncludes < w.spent) :
    (visit resolver limits levels visited enclosing target w).2 = w := by
  rcases refusal_cases limits levels visited w.spent target with
    ⟨p, refused⟩ | ⟨_, _, _, _, affordable, _⟩
  · rw [visit_refused resolver limits levels visited enclosing target w p refused]
  · omega

/-- Every evaluation comes to an outcome of its own visit, which no deadline around it cuts
short. It makes no lookup when more than the budget is spent beforehand, and otherwise at
most one and those that are left in the budget, which also bound the tree below the root. -/
theorem evaluateFrom_within_budget (resolver : Resolver) (limits : Limits) (domain : String)
    (depth : Nat) (visited : List String) (spent : Nat) :
    ∃ o walk, evaluateFrom resolver limits domain depth visited spent = (o, walk) ∧
      visit resolver limits (limits.maxDepth + 1 - depth) visited none (.ofText domain)
        { spent := spent } = (some o, walk) ∧
      (limits.maxIncludes < spent → walk.queried.length = 0) ∧
      (spent ≤ limits.maxIncludes →
        walk.queried.length ≤ 1 + (limits.maxIncludes - spent)) ∧
      o.descendants.length ≤ limits.maxIncludes - spent := by
  have run := evaluateFrom_eq resolver limits domain depth visited spent
  have paid := visit_paid resolver limits (limits.maxDepth + 1 - depth) visited none
    (.ofText domain) { spent := spent }
  have still := visit_overspent resolver limits (limits.maxDepth + 1 - depth) visited none
    (.ofText domain) { spent := spent }
  rw [run] at paid still
  obtain ⟨grows, bounded, lookups, nodes⟩ := paid
  have nodes := nodes _ rfl
  dsimp only [List.length_nil] at grows bounded lookups nodes still
  refine ⟨(evaluateFrom resolver limits domain depth visited spent).1,
    (evaluateFrom resolver limits domain depth visited spent).2, rfl, run, ?_, ?_, ?_⟩
  · intro overspent
    rw [still overspent]
    rfl
  · intro affordable
    have := bounded affordable
    omega
  · by_cases affordable : spent ≤ limits.maxIncludes
    · have := bounded affordable
      omega
    · rw [still (Nat.lt_of_not_le affordable)] at nodes
      dsimp only at nodes
      omega

end SenderAudit.Spf
