import SenderAudit.Proofs.Spf.Deadlines
import SenderAudit.Proofs.Spf.LookupLog

/-!
The count of lookups that an outcome carries: the records that were read at its nodes. It is
at most the length of the log, since a node with a record was looked up; and unless a deadline
discards some of the tree, just the lookups without a record make the difference.
-/
namespace SenderAudit.Spf

theorem Course.lookups {limits : Limits} {visit : Visit} {start o : Outcome} {w after : Walk}
    {record : Option Record} (childless : start.children = [])
    (course : Course limits visit start w record o after) :
    o.lookups = start.lookups + (o.children.map (·.lookups)).sum := by
  obtain ⟨noIncludes, noRedirect⟩ := List.append_eq_nil_iff.mp childless
  have included : ∀ kids, (start.addIncludes kids).lookups =
      start.lookups + ((start.addIncludes kids).children.map (·.lookups)).sum := by
    intro kids
    simp [Outcome.addIncludes, Outcome.children, noIncludes, noRedirect]
  cases course with
  | unread => rw [childless, List.map_nil, List.sum_nil, Nat.add_zero]
  | shortOfIncludes => exact included _
  | unsound => exact included _
  | ended => exact included _
  | shortOfRedirect => exact included _
  | redirected =>
      simp [Outcome.redirectTo, Outcome.absorb, Outcome.addIncludes, Outcome.children,
        noIncludes, Nat.add_assoc]

theorem Origin.lookups {resolver : Resolver} {limits : Limits} {o : Outcome}
    (origin : Origin resolver limits o) :
    o.lookups = o.parsed.toList.length + (o.children.map (·.lookups)).sum := by
  rcases origin with ⟨p, _, same⟩ | ⟨name, visit, w, after, names, course⟩
  · rw [same]
    rfl
  · rw [course.keeps.2.2]
    exact course.lookups rfl

theorem lookups_eq_countP {resolver : Resolver} {limits : Limits} {o : Outcome}
    (origins : ∀ node ∈ o.nodes, Origin resolver limits node) :
    o.lookups = o.nodes.countP (·.parsed.isSome) := by
  induction o using Outcome.children_induction with
  | step o ih =>
      have below : o.children.map (·.lookups) =
          o.children.map fun child => child.nodes.countP (·.parsed.isSome) := by
        apply List.map_congr_left
        intro child isChild
        exact ih child isChild fun node inChild =>
          origins node (o.mem_nodes_of_child child node isChild inChild)
      have here : o.parsed.toList.length = if o.parsed.isSome then 1 else 0 := by
        cases o.parsed <;> rfl
      rw [(origins o o.self_mem_nodes).lookups, below, here, Outcome.nodes_eq, List.countP_cons,
        Outcome.descendants, List.countP_flatMap, Nat.add_comm]
      rfl

/-! The count against the log of the walk. -/

/-- No node of the tree ran out of its time. A part that a deadline discards leaves such a node
behind it, so nothing has been discarded. -/
def Outcome.Uncut (o : Outcome) : Prop :=
  ∀ node ∈ o.nodes, ¬ node.TimedOut

instance (o : Outcome) : Decidable o.Uncut :=
  inferInstanceAs (Decidable (∀ node ∈ o.nodes, ¬ node.TimedOut))

theorem Outcome.uncut_children (o : Outcome) (uncut : o.Uncut) :
    ∀ child ∈ o.children, child.Uncut := by
  intro child isChild node inChild
  exact uncut node (o.mem_nodes_of_child child node isChild inChild)

def isRead (resolver : Resolver) (name : DomainName) : Bool :=
  (recordAt resolver name).isSome

/-- Between two walks the names of `asked` are looked up, of which `count` are counted: those
with a record, or fewer if some of the outcomes are cut. -/
structure Tallies (resolver : Resolver) (before after : Walk) (uncut : Prop) (count : Nat)
    (asked : List DomainName) : Prop where
  logged : after.queried = before.queried ++ asked
  atMost : count ≤ asked.countP (isRead resolver)
  complete : uncut → count = asked.countP (isRead resolver)

theorem tallies_nothing (resolver : Resolver) (w : Walk) (uncut : Prop) :
    Tallies resolver w w uncut 0 [] where
  logged := (List.append_nil _).symm
  atMost := Nat.le_refl _
  complete := fun _ => rfl

theorem Tallies.andThen {resolver : Resolver} {before between after : Walk}
    {uncut uncut' both : Prop} {count count' : Nat} {asked asked' : List DomainName}
    (first : Tallies resolver before between uncut count asked)
    (second : Tallies resolver between after uncut' count' asked')
    (apart : both → uncut ∧ uncut') :
    Tallies resolver before after both (count + count') (asked ++ asked') := by
  constructor
  · rw [second.logged, first.logged, List.append_assoc]
  · rw [List.countP_append]
    exact Nat.add_le_add first.atMost second.atMost
  · intro isUncut
    rw [List.countP_append, first.complete (apart isUncut).1, second.complete (apart isUncut).2]

def TalliesVisits (resolver : Resolver) (visit : Visit) : Prop :=
  ∀ target w o after, visit target w = (some o, after) →
    ∃ asked, Tallies resolver w after o.Uncut o.lookups asked

theorem Visits.tallies {resolver : Resolver} {visit : Visit} {w after : Walk}
    {targets : List DomainName} {kids : List Outcome} (call : TalliesVisits resolver visit)
    (visits : Visits visit w targets kids after) :
    ∃ asked, Tallies resolver w after (∀ kid ∈ kids, kid.Uncut) (kids.map (·.lookups)).sum
      asked := by
  induction visits with
  | none w => exact ⟨[], tallies_nothing resolver w _⟩
  | @next w between _ _ _ kid _ made _ ih =>
      obtain ⟨asked, logged, atMost, complete⟩ := call _ _ _ _ made
      obtain ⟨others, rest⟩ := ih
      -- Spending leaves the log as it is.
      have first : Tallies resolver w between kid.Uncut kid.lookups asked :=
        ⟨logged, atMost, complete⟩
      exact ⟨asked ++ others, first.andThen rest List.forall_mem_cons.mp⟩

theorem lookup_tallies (resolver : Resolver) (w answered : Walk) (name : DomainName)
    (own : answered.queried = w.queried ++ [name]) :
    Tallies resolver w answered True (recordAt resolver name).toList.length [name] := by
  have counted : (recordAt resolver name).toList.length = [name].countP (isRead resolver) := by
    rw [List.countP_singleton, isRead]
    cases recordAt resolver name <;> rfl
  exact ⟨own, Nat.le_of_eq counted, fun _ => counted⟩

theorem visit_tallies (resolver : Resolver) (limits : Limits) (levels : Nat)
    (visited : List String) (enclosing : Option Nat) (target : Target) (w after : Walk)
    (o : Outcome)
    (run : visit resolver limits levels visited enclosing target w = (some o, after)) :
    ∃ asked, Tallies resolver w after o.Uncut o.lookups asked := by
  induction levels generalizing visited enclosing target w after o with
  | zero =>
      cases run
      exact ⟨[], tallies_nothing resolver w _⟩
  | succ below ih =>
      rcases visit_cases resolver limits (below + 1) visited enclosing target w after o run with
        ⟨p, refused, rfl⟩ | ⟨_, name, ⟨⟩, _, ⟨_, rfl⟩ | ⟨answered, heard, course⟩⟩
      · rw [visit_refused resolver limits _ visited enclosing target w p refused] at run
        cases run
        exact ⟨[], tallies_nothing resolver w _⟩
      · -- A node that is cut counts nothing, whatever was looked up below it.
        have logged := visit_queried resolver limits (below + 1) visited enclosing target w
        rw [run] at logged
        obtain ⟨asked, isLog⟩ := logged
        refine ⟨asked, isLog.symm, Nat.zero_le _, fun uncut => ?_⟩
        exact absurd ⟨_, List.mem_singleton.mpr rfl⟩ (uncut _ (Outcome.self_mem_nodes _))
      · have own := w.ask_queried resolver (deadlineAt limits enclosing w.clock) name
        rw [heard] at own
        obtain ⟨met, _, _, visits⟩ := course.children_visited rfl
        obtain ⟨others, rest⟩ := visits.tallies fun next walk kid later made =>
          ih _ _ (.ofName next) walk later kid made
        rw [course.lookups rfl]
        exact ⟨[name] ++ others, (lookup_tallies resolver w answered name own).andThen rest
          fun uncut => ⟨trivial, o.uncut_children uncut⟩⟩

/-- At every node of an evaluation the count is that of the records in its subtree. At the root
it is at most the number of lookups; if no node ran out of its time, it is that number exactly
if there was a record to read at every name looked up. -/
theorem evaluateFrom_counts_lookups (resolver : Resolver) (limits : Limits) (domain : String)
    (depth : Nat) (visited : List String) (spent : Nat) :
    (∀ node ∈ (evaluateFrom resolver limits domain depth visited spent).1.nodes,
      node.lookups = node.nodes.countP (·.parsed.isSome)) ∧
    (evaluateFrom resolver limits domain depth visited spent).1.lookups ≤
      (evaluateFrom resolver limits domain depth visited spent).2.queried.length ∧
    ((evaluateFrom resolver limits domain depth visited spent).1.Uncut →
      ((evaluateFrom resolver limits domain depth visited spent).1.lookups =
          (evaluateFrom resolver limits domain depth visited spent).2.queried.length ↔
        ∀ name ∈ (evaluateFrom resolver limits domain depth visited spent).2.queried,
          ∃ record, recordAt resolver name = some record)) := by
  have origins := evaluateFrom_origin resolver limits domain depth visited spent
  obtain ⟨asked, tallies⟩ := visit_tallies resolver limits _ visited none _ _ _ _
    (evaluateFrom_eq resolver limits domain depth visited spent)
  have logged : (evaluateFrom resolver limits domain depth visited spent).2.queried = asked :=
    tallies.logged
  rw [logged]
  refine ⟨?_, ?_, ?_⟩
  · intro node inTree
    exact lookups_eq_countP fun other inside =>
      origins other (Outcome.nodes_of_node _ node inTree other inside)
  · exact Nat.le_trans tallies.atMost List.countP_le_length
  · intro uncut
    rw [tallies.complete uncut, List.countP_eq_length]
    simp only [isRead, Option.isSome_iff_exists]

def halfPublishedZone : Resolver := fun name =>
  if name.text = "a.example" then ⟨.ok ["v=spf1 include:b.example include:c.example"], 4⟩
  else if name.text = "b.example" then ⟨.ok ["v=spf1 redirect=d.example"], 0⟩
  else if name.text = "c.example" then ⟨.ok ["unrelated"], 2⟩
  else ⟨.ok ["v=spf1 -all"], 1⟩

-- All lookups below `b.example` are counted, and all but one of those below `a.example`.
theorem halfPublishedZone_counts_lookups :
    (∃ node ∈ (evaluateFrom halfPublishedZone ⟨5, 10, 50⟩ "a.example" 0 [] 0).1.nodes,
      node.domain = "b.example" ∧ node.lookups = 2 ∧
        node.lookups = node.nodes.countP (·.parsed.isSome)) ∧
    ((evaluateFrom halfPublishedZone ⟨5, 10, 50⟩ "a.example" 0 [] 0).1.Uncut ∧
      (evaluateFrom halfPublishedZone ⟨5, 10, 50⟩ "a.example" 0 [] 0).1.lookups = 3 ∧
      ((evaluateFrom halfPublishedZone ⟨5, 10, 50⟩ "a.example" 0 [] 0).1.lookups =
          (evaluateFrom halfPublishedZone ⟨5, 10, 50⟩ "a.example" 0 [] 0).2.queried.length ↔
        ∀ name ∈ (evaluateFrom halfPublishedZone ⟨5, 10, 50⟩ "a.example" 0 [] 0).2.queried,
          ∃ record, recordAt halfPublishedZone name = some record)) ∧
    ((evaluateFrom halfPublishedZone ⟨5, 10, 50⟩ "b.example" 0 [] 0).1.Uncut ∧
      (evaluateFrom halfPublishedZone ⟨5, 10, 50⟩ "b.example" 0 [] 0).2.queried.length = 2 ∧
      ∀ name ∈ (evaluateFrom halfPublishedZone ⟨5, 10, 50⟩ "b.example" 0 [] 0).2.queried,
        ∃ record, recordAt halfPublishedZone name = some record) := by
  have counts := evaluateFrom_counts_lookups halfPublishedZone ⟨5, 10, 50⟩ "a.example" 0 [] 0
  have counts' := evaluateFrom_counts_lookups halfPublishedZone ⟨5, 10, 50⟩ "b.example" 0 [] 0
  have found : ((evaluateFrom halfPublishedZone ⟨5, 10, 50⟩ "a.example" 0 [] 0).1.nodes.any
      fun node => node.domain = "b.example" ∧ node.lookups = 2) = true := by decide +kernel
  have uncut : (evaluateFrom halfPublishedZone ⟨5, 10, 50⟩ "a.example" 0 [] 0).1.Uncut := by
    decide +kernel
  have uncut' : (evaluateFrom halfPublishedZone ⟨5, 10, 50⟩ "b.example" 0 [] 0).1.Uncut := by
    decide +kernel
  obtain ⟨node, inTree, isThere⟩ := List.any_eq_true.mp found
  obtain ⟨atName, two⟩ := of_decide_eq_true isThere
  exact ⟨⟨node, inTree, atName, two, counts.1 node inTree⟩,
    ⟨uncut, by decide +kernel, counts.2.2 uncut⟩,
    uncut', by decide +kernel, (counts'.2.2 uncut').mp (by decide +kernel)⟩

end SenderAudit.Spf
