import SenderAudit.Proofs.CanonicalName
import SenderAudit.Proofs.Spf.Undelayed
import SenderAudit.Proofs.Spf.Unfolding

/-!
When an evaluation is valid, in zones without delay: exactly if the whole unfolding of the
domain is in order and within the limits. The counter that the walk shares between its
branches is shown to count the edges of the unfolding, as long as nothing is wrong.
-/
namespace SenderAudit.Spf

/-- Every node below `root` publishes one record, is met for the first time on its path and
lies less than `levels` edges below `root`. -/
def InOrder (resolver : Resolver) (levels : Nat) (visited : List String)
    (root : DomainName) : Prop :=
  ∀ position above name, NodeAt resolver root position above name →
    Publishes resolver name ∧ name.text ∉ visited ∧ name ∉ above ∧ position.length < levels

theorem inOrder_iff (resolver : Resolver) (levels : Nat) (visited : List String)
    (root : DomainName) :
    InOrder resolver (levels + 1) visited root ↔
      Publishes resolver root ∧ root.text ∉ visited ∧
        ∀ child ∈ childrenOf resolver root,
          InOrder resolver levels (visited ++ [root.text]) child := by
  constructor
  · intro order
    obtain ⟨publishes, fresh, _, _⟩ := order [] [] root (.self root)
    refine ⟨publishes, fresh, ?_⟩
    intro child isChild position above name node
    obtain ⟨number, found⟩ := List.mem_iff_getElem?.mp isChild
    obtain ⟨publishes, fresh, first, depth⟩ := order _ _ name (.child found node)
    refine ⟨publishes, ?_, fun isAbove => first (List.mem_cons_of_mem _ isAbove),
      Nat.lt_of_succ_lt_succ depth⟩
    intro seen
    -- The names above a node are all in the list that is passed down to it.
    rcases List.mem_append.mp seen with before | isRoot
    · exact fresh before
    · have same : name = root := by
        cases name
        cases root
        simpa using isRoot
      exact first (same ▸ List.mem_cons_self)
  · rintro ⟨publishes, fresh, below⟩ position above name node
    cases node with
    | self => exact ⟨publishes, fresh, List.not_mem_nil, Nat.succ_pos _⟩
    | @child _ child _ number rest above isChild node =>
        obtain ⟨publishes, fresh, first, depth⟩ :=
          below child (List.mem_of_getElem? isChild) rest above name node
        refine ⟨publishes, fun seen => fresh (List.mem_append_left _ seen), ?_,
          Nat.succ_lt_succ depth⟩
        intro isAbove
        rcases List.mem_cons.mp isAbove with isRoot | isAbove
        · exact fresh (List.mem_append_right _ (by simp [isRoot]))
        · exact first isAbove

noncomputable def leadEdges (resolver : Resolver) (leads : List (Relation × DomainName)) : ℕ∞ :=
  (leads.map fun lead => (edges resolver lead.2).encard + 1).sum

/-- An outcome is valid exactly if all is in `order` and `cost` is within the budget, and
then just that has been spent. -/
structure Counts (limits : Limits) (order : Prop) (cost : ℕ∞) (spent : Nat) (o : Outcome)
    (after : Walk) : Prop where
  valid_iff : o.valid = true ↔ order ∧ (spent : ℕ∞) + cost ≤ limits.maxIncludes
  spends : o.valid = true → (after.spent : ℕ∞) = spent + cost

theorem counts_invalid (limits : Limits) (order : Prop) (cost : ℕ∞) (spent : Nat)
    (o : Outcome) (after : Walk) (invalid : o.valid = false)
    (cause : order → ¬ (spent : ℕ∞) + cost ≤ limits.maxIncludes) :
    Counts limits order cost spent o after := by
  constructor
  · rw [invalid]
    simpa using cause
  · intro valid
    rw [invalid] at valid
    cases valid

theorem cost_total (spent : Nat) (cost rest : ℕ∞) :
    (spent : ℕ∞) + ((cost + 1) + rest) = ((spent + 1 : Nat) : ℕ∞) + cost + rest := by
  rw [Nat.cast_add, Nat.cast_one]
  ac_rfl

theorem counts_lead (limits : Limits) (here rest : Prop) (cost restCost : ℕ∞) (spent : Nat)
    (child result : Outcome) (after final : Walk)
    (call : Counts limits here cost (spent + 1) child after) (valid : child.valid = true)
    (others : Counts limits rest restCost after.spent result final) :
    Counts limits (here ∧ rest) ((cost + 1) + restCost) spent result final := by
  have total : (after.spent : ℕ∞) + restCost = spent + ((cost + 1) + restCost) := by
    rw [call.spends valid, cost_total]
  obtain ⟨inOrder, _⟩ := call.valid_iff.mp valid
  constructor
  · rw [others.valid_iff, total]
    simp only [inOrder, true_and]
  · intro resultValid
    rw [others.spends resultValid, total]

theorem counts_exhausted (limits : Limits) (order : Prop) (cost rest : ℕ∞) (spent : Nat)
    (o : Outcome) (after : Walk) (invalid : o.valid = false)
    (exhausted : limits.maxIncludes ≤ spent) :
    Counts limits order ((cost + 1) + rest) spent o after := by
  apply counts_invalid _ _ _ _ _ _ invalid
  intro _ within
  rw [cost_total, add_assoc] at within
  have one : ((spent + 1 : Nat) : ℕ∞) ≤ limits.maxIncludes := le_self_add.trans within
  exact Nat.lt_irrefl _ (Nat.lt_of_lt_of_le (Nat.cast_le.mp one) exhausted)

theorem counts_unsound (limits : Limits) (here rest : Prop) (cost restCost : ℕ∞) (spent : Nat)
    (child result : Outcome) (after final : Walk)
    (call : Counts limits here cost (spent + 1) child after) (childInvalid : child.valid = false)
    (invalid : result.valid = false) :
    Counts limits (here ∧ rest) ((cost + 1) + restCost) spent result final := by
  apply counts_invalid _ _ _ _ _ _ invalid
  rintro ⟨inOrder, _⟩ within
  rw [cost_total] at within
  have valid := call.valid_iff.mpr ⟨inOrder, le_self_add.trans within⟩
  rw [childInvalid] at valid
  cases valid

/-- Every visit comes to an outcome that is valid by what is in order at the target and below
it, and by the number of edges there. -/
def VisitCounts (resolver : Resolver) (limits : Limits) (order : DomainName → Prop)
    (visit : Visit) : Prop :=
  ∀ target w, ∃ o after, visit target w = (some o, after) ∧
    Counts limits (order target) (edges resolver target).encard w.spent o after

theorem visitCounts_arrives (resolver : Resolver) (limits : Limits) (order : DomainName → Prop)
    (visit : Visit) (call : VisitCounts resolver limits order visit) : Arrives visit := by
  intro target w
  obtain ⟨o, after, made, _⟩ := call target w
  exact ⟨o, congrArg Prod.fst made⟩

/-- The run: as long as nothing is wrong, following leads spends one for each edge to their
targets or below them. -/
theorem followLeads_counts (resolver : Resolver) (limits : Limits) (visit : Visit)
    (order : DomainName → Prop) (call : VisitCounts resolver limits order visit)
    (leads : List (Relation × DomainName)) (o : Outcome) (w : Walk) (valid : o.valid = true)
    (affordable : w.spent ≤ limits.maxIncludes) :
    ∃ result after, followLeads limits visit leads true o w = (some result, after) ∧
      Counts limits (∀ lead ∈ leads, order lead.2) (leadEdges resolver leads) w.spent result
        after := by
  induction leads generalizing o w with
  | nil =>
      have within : (w.spent : ℕ∞) ≤ limits.maxIncludes := Nat.cast_le.mpr affordable
      refine ⟨o, w, rfl, ?_⟩
      constructor
      · simp [valid, leadEdges, within]
      · simp [leadEdges]
  | cons lead rest ih =>
      obtain ⟨relation, target⟩ := lead
      have cost : leadEdges resolver ((relation, target) :: rest) =
          ((edges resolver target).encard + 1) + leadEdges resolver rest := by
        simp [leadEdges]
      rw [cost, List.forall_mem_cons]
      simp only [followLeads, Bool.true_eq_false, and_false, ↓reduceIte, Bool.true_and]
      by_cases exhausted : w.spent ≥ limits.maxIncludes
      · simp only [exhausted, ↓reduceIte]
        exact ⟨_, w, rfl, counts_exhausted limits _ _ _ w.spent _ w rfl exhausted⟩
      · simp only [exhausted, ↓reduceIte]
        obtain ⟨child, after, made, counts⟩ := call target w.spend
        rw [made]
        dsimp only
        have adopted := Outcome.adopt_valid o child relation
        cases childValid : child.valid with
        | true =>
            have within : after.spent ≤ limits.maxIncludes := by
              have bound := (counts.valid_iff.mp childValid).2
              rw [← counts.spends childValid] at bound
              exact Nat.cast_le.mp bound
            obtain ⟨result, final, run, others⟩ := ih (o.adopt relation child) after
              (by rw [adopted, valid, childValid, Bool.and_self]) within
            exact ⟨result, final, run, counts_lead limits _ _ _ _ w.spent child result after
              final counts childValid others⟩
        | false =>
            -- The further leads are visited, but they cannot make up for this one.
            obtain ⟨result, final, run, invalid⟩ := followLeads_invalid limits visit
              (visitCounts_arrives resolver limits order visit call) rest false
              (o.adopt relation child) after (by rw [adopted, childValid, Bool.and_false])
            exact ⟨result, final, run, counts_unsound limits _ _ _ _ w.spent child result after
              final counts childValid invalid⟩

theorem childrenOf_eq (resolver : Resolver) (name : DomainName) (record : Record)
    (read : recordAt resolver name = some record) :
    childrenOf resolver name = record.leads.map Prod.snd := by
  rw [childrenOf, read, leads_targets]

theorem leadEdges_eq (resolver : Resolver) (name : DomainName) (record : Record)
    (read : recordAt resolver name = some record) :
    leadEdges resolver record.leads = (edges resolver name).encard := by
  rw [encard_edges, childrenOf_eq resolver name record read, List.map_map, leadEdges]
  rfl

theorem inOrder_leads (resolver : Resolver) (levels : Nat) (visited : List String)
    (name : DomainName) (record : Record) (only : Unambiguous (resolver name).texts)
    (read : recordAt resolver name = some record) (fresh : name.text ∉ visited) :
    InOrder resolver (levels + 1) visited name ↔
      ∀ lead ∈ record.leads, InOrder resolver levels (visited ++ [name.text]) lead.2 := by
  have publishes : Publishes resolver name :=
    (publishes_iff resolver name).mpr ⟨only, record, read⟩
  rw [inOrder_iff, childrenOf_eq resolver name record read, List.forall_mem_map]
  simp only [publishes, fresh, not_false_eq_true, true_and]

-- A node that is new on its path comes to what its answer and its leads come to.
theorem assess_counts (resolver : Resolver) (limits : Limits) (levels : Nat)
    (visited : List String) (name : DomainName) (visit : Visit) (fresh : name.text ∉ visited)
    (call : VisitCounts resolver limits (InOrder resolver levels (visited ++ [name.text])) visit)
    (w : Walk) (affordable : w.spent ≤ limits.maxIncludes) :
    ∃ o after, assess limits visit name (resolver name).texts w = (some o, after) ∧
      Counts limits (InOrder resolver (levels + 1) visited name)
        (edges resolver name).encard w.spent o after := by
  have published : InOrder resolver (levels + 1) visited name → Publishes resolver name :=
    fun order => ((inOrder_iff resolver levels visited name).mp order).1
  rcases assess_cases name (resolver name).texts with
    ⟨unread, o, deadEnd, ends⟩ | ⟨record, o, read, start, follows⟩
  · rw [ends]
    refine ⟨o, w, rfl, counts_invalid _ _ _ _ _ _ deadEnd.invalid ?_⟩
    intro order
    obtain ⟨_, record, read⟩ := (publishes_iff resolver name).mp (published order)
    rw [recordAt, unread] at read
    cases read
  · rw [follows]
    by_cases only : Unambiguous (resolver name).texts
    · obtain ⟨result, after, run, counts⟩ := followLeads_counts resolver limits visit _ call
        record.leads o w (start.valid_iff.mpr only) affordable
      rw [leadEdges_eq resolver name record read,
        ← inOrder_leads resolver levels visited name record only read fresh] at counts
      exact ⟨result, after, run, counts⟩
    · -- The first of several records is followed, but the node stays invalid.
      obtain ⟨result, after, run, invalid⟩ := followLeads_invalid limits visit
        (visitCounts_arrives resolver limits _ visit call) record.leads true o w
        (Bool.eq_false_iff.mpr fun valid => only (start.valid_iff.mp valid))
      refine ⟨result, after, run, counts_invalid _ _ _ _ _ _ invalid ?_⟩
      intro order
      exact absurd ((publishes_iff resolver name).mp (published order)).1 only

theorem visit_counts (resolver : Resolver) (undelayed : Undelayed resolver) (limits : Limits)
    (levels : Nat) (visited : List String) (enclosing : Option Nat) (name : DomainName)
    (w : Walk) :
    ∃ o after, visit resolver limits levels visited enclosing (.ofName name) w =
        (some o, after) ∧
      Counts limits (InOrder resolver levels visited name) (edges resolver name).encard w.spent
        o after := by
  -- The levels that are left go down by one at each edge, as those of `InOrder` do.
  induction levels generalizing visited enclosing name w with
  | zero =>
      refine ⟨_, w, rfl, counts_invalid _ _ _ _ _ _ rfl ?_⟩
      intro order
      exact absurd (order [] [] name (.self name)).2.2.2 (Nat.not_lt_zero _)
  | succ below ih =>
      rcases refusal_cases limits (below + 1) visited w.spent (.ofName name) with
        ⟨p, refused⟩ | ⟨_, name, ⟨⟩, fresh, affordable, ⟨⟩⟩
      · refine ⟨_, w, visit_refused resolver limits _ visited enclosing _ w p refused,
          counts_invalid _ _ _ _ _ _ rfl ?_⟩
        intro order within
        have fresh := ((inOrder_iff resolver below visited name).mp order).2.1
        have affordable : w.spent ≤ limits.maxIncludes :=
          Nat.cast_le.mp ((le_self_add (a := (w.spent : ℕ∞))).trans within)
        rw [refusal?_eq_none limits below visited w.spent (.ofName name) name fresh affordable
          rfl] at refused
        cases refused
      · rw [visit_undelayed resolver undelayed limits below visited enclosing (.ofName name) w
          name fresh affordable rfl]
        refine assess_counts resolver limits below visited name _ fresh ?_
          { w with queried := w.queried ++ [name] } affordable
        intro next walk
        exact ih (visited ++ [name.text]) _ next walk

/-- An evaluation of a domain in ASCII is valid exactly if the text denotes a name, every
node of the name's unfolding publishes one record, is new on its path and not too deep, and
the budget covers what is spent beforehand and one lookup for each edge. -/
theorem evaluateFrom_valid_iff (resolver : Resolver) (undelayed : Undelayed resolver)
    (limits : Limits) (domain : String) (ascii : Idna.allAscii domain.toList = true)
    (depth : Nat) (visited : List String) (spent : Nat) :
    (evaluateFrom resolver limits domain depth visited spent).1.valid = true ↔
      ∃ root, DomainName.parse domain = .ok root ∧
        (∀ position above name, NodeAt resolver root position above name →
          Publishes resolver name ∧ name.text ∉ visited ∧ name ∉ above ∧
            depth + position.length ≤ limits.maxDepth) ∧
        (spent : ℕ∞) + (edges resolver root).encard ≤ limits.maxIncludes := by
  have run := evaluateFrom_eq resolver limits domain depth visited spent
  cases parsed : DomainName.parse domain with
  | error fault =>
      rcases refusal_cases limits (limits.maxDepth + 1 - depth) visited spent
        (.ofText domain) with ⟨p, refused⟩ | ⟨_, root, _, _, _, named⟩
      · rw [visit_refused resolver limits _ visited none (.ofText domain) { spent := spent } p
          refused] at run
        rw [← Option.some.inj (Prod.mk.inj run).1]
        simp [Outcome.failed, Outcome.fail]
      · have denoted := (LookupFailure.parseName_ok domain root).mp named
        rw [parsed] at denoted
        cases denoted
  | ok root =>
      have target : Target.ofText domain = .ofName root := by
        rw [Target.ofText, Target.ofName, DomainName.spelling_of_ascii domain root ascii parsed,
          (LookupFailure.parseName_ok domain root).mpr parsed]
      obtain ⟨o, after, visits, counts⟩ := visit_counts resolver undelayed limits
        (limits.maxDepth + 1 - depth) visited none root { spent := spent }
      rw [target, visits] at run
      rw [← Option.some.inj (Prod.mk.inj run).1, counts.valid_iff]
      have shallow : ∀ position : List Nat, position.length < limits.maxDepth + 1 - depth ↔
          depth + position.length ≤ limits.maxDepth := fun position => by omega
      simp only [InOrder, shallow, Except.ok.injEq, exists_eq_left']

def smallZone : Resolver := fun name =>
  if name.text = "a.example" then ⟨.ok ["none", " v=spf1 include:B.example redirect=c.example"], 0⟩
  else if name.text = "b.example" then ⟨.ok ["v=spf1 ip4:192.0.2.1 ~all"], 0⟩
  else ⟨.ok ["V=SPF1 -all"], 0⟩

-- The depth and the budget are used up exactly, and the domain is not spelled as its name.
theorem smallZone_valid :
    Undelayed smallZone ∧ Idna.allAscii "A.example.".toList = true ∧
      (evaluateFrom smallZone ⟨3, 7, 0⟩ "A.example." 2 ["z.example"] 5).1.valid = true ∧
      ∃ root, DomainName.parse "A.example." = .ok root ∧
        (∀ position above name, NodeAt smallZone root position above name →
          Publishes smallZone name ∧ name.text ∉ ["z.example"] ∧ name ∉ above ∧
            2 + position.length ≤ 3) ∧
        ((5 : Nat) : ℕ∞) + (edges smallZone root).encard ≤ (7 : Nat) := by
  have undelayed : Undelayed smallZone := by
    intro name
    simp only [smallZone]
    split
    · rfl
    · split <;> rfl
  have ascii : Idna.allAscii "A.example.".toList = true := by decide +kernel
  have valid : (evaluateFrom smallZone ⟨3, 7, 0⟩ "A.example." 2 ["z.example"] 5).1.valid =
      true := by decide +kernel
  exact ⟨undelayed, ascii, valid, (evaluateFrom_valid_iff smallZone undelayed ⟨3, 7, 0⟩
    "A.example." ascii 2 ["z.example"] 5).mp valid⟩

end SenderAudit.Spf
