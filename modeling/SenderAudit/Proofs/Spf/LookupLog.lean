import SenderAudit.Proofs.Spf.Visit

/-!
The log of a walk. Lookups are only added to it, also by parts that a deadline discards. A
visit that passes the checks on entry looks its own name up before all others.
-/
namespace SenderAudit.Spf

theorem steady_queried : Steady fun before after => before.queried <+: after.queried where
  still _ := List.prefix_rfl
  andThen := List.IsPrefix.trans
  spend _ := List.prefix_rfl

theorem explore_queried (resolver : Resolver) (limits : Limits) (levels : Nat)
    (visited : List String) (deadline : Nat) (name : DomainName) (w : Walk)
    (call : ∀ target w, w.queried <+:
      (visitBelow resolver limits levels visited name deadline target w).2.queried) :
    w.queried ++ [name] <+:
      (explore resolver limits levels visited deadline name w).2.queried := by
  rw [← w.ask_queried resolver deadline name]
  exact steady_queried.explore resolver limits levels visited deadline name w call

theorem visit_queried (resolver : Resolver) (limits : Limits) (levels : Nat)
    (visited : List String) (enclosing : Option Nat) (target : Target) (w : Walk) :
    w.queried <+: (visit resolver limits levels visited enclosing target w).2.queried := by
  induction levels generalizing visited enclosing target w with
  | zero => exact List.prefix_rfl
  | succ below ih =>
      rcases refusal_cases limits (below + 1) visited w.spent target with
        ⟨p, refused⟩ | ⟨_, name, ⟨⟩, fresh, affordable, named⟩
      · simp only [visit_refused resolver limits _ visited enclosing target w p refused,
          List.prefix_rfl]
      · rw [visit_admitted resolver limits below visited enclosing target w name fresh affordable
          named, settle_walk]
        have logged := explore_queried resolver limits below visited
          (deadlineAt limits enclosing w.clock) name w fun next walk => ih _ _ (.ofName next) walk
        exact (List.prefix_append _ _).trans logged

theorem visit_asks_first (resolver : Resolver) (limits : Limits) (levels : Nat)
    (visited : List String) (enclosing : Option Nat) (target : Target) (w : Walk)
    (name : DomainName) (fresh : target.spelling ∉ visited)
    (affordable : w.spent ≤ limits.maxIncludes) (named : target.name = .ok name) :
    w.queried ++ [name] <+:
      (visit resolver limits (levels + 1) visited enclosing target w).2.queried := by
  rw [visit_admitted resolver limits levels visited enclosing target w name fresh affordable
    named, settle_walk]
  exact explore_queried resolver limits levels visited _ name w fun next walk =>
    visit_queried resolver limits levels _ _ (.ofName next) walk

end SenderAudit.Spf
