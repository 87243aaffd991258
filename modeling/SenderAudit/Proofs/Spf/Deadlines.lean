import SenderAudit.Proofs.CanonicalName
import SenderAudit.Proofs.Spf.Findings

/-!
Deadlines. Every visit of a tree waits no longer than the root's own deadline, because each
child is entered no earlier than the node above it. So a node that runs out of its own time
was entered when the root was: any later one is cut by the deadline of a node further out.
-/
namespace SenderAudit.Spf

/-- From `before` to `after` time does not go back, and does not pass the deadline. -/
structure Timely (deadline : Nat) (before after : Walk) : Prop where
  onward : before.clock ≤ after.clock
  inTime : before.clock ≤ deadline → after.clock ≤ deadline

theorem steady_timely (deadline : Nat) : Steady (Timely deadline) where
  still _ := ⟨Nat.le_refl _, id⟩
  andThen first second :=
    ⟨Nat.le_trans first.onward second.onward, fun inTime => second.inTime (first.inTime inTime)⟩
  spend _ := ⟨Nat.le_refl _, id⟩

theorem ask_timely (w : Walk) (resolver : Resolver) (deadline : Nat) (name : DomainName) :
    Timely deadline w (w.ask resolver deadline name).2 := by
  simp only [Walk.ask]
  split
  · exact ⟨Nat.le_refl _, id⟩
  · split
    · rename_i arrives
      exact ⟨Nat.le_add_right _ _, fun _ => arrives⟩
    · exact ⟨Nat.le_max_left _ _, fun inTime => Nat.max_le.mpr ⟨inTime, Nat.le_refl _⟩⟩

theorem deadlineAt_some (limits : Limits) (outer now : Nat) :
    deadlineAt limits (some outer) now = min (now + limits.timeoutMs) outer := rfl

theorem deadlineAt_le_own (limits : Limits) (enclosing : Option Nat) (now : Nat) :
    deadlineAt limits enclosing now ≤ now + limits.timeoutMs := by
  cases enclosing with
  | none => exact Nat.le_refl _
  | some outer => exact Nat.min_le_left _ _

theorem visit_timely (resolver : Resolver) (limits : Limits) (levels : Nat)
    (visited : List String) (enclosing : Option Nat) (target : Target) (w : Walk) :
    Timely (deadlineAt limits enclosing w.clock) w
      (visit resolver limits levels visited enclosing target w).2 := by
  induction levels generalizing visited enclosing target w with
  | zero => exact (steady_timely _).still w
  | succ below ih =>
      rcases refusal_cases limits (below + 1) visited w.spent target with
        ⟨p, refused⟩ | ⟨_, name, ⟨⟩, fresh, affordable, named⟩
      · rw [visit_refused resolver limits _ visited enclosing target w p refused]
        exact (steady_timely _).still w
      · rw [visit_admitted resolver limits below visited enclosing target w name fresh affordable
          named, settle_walk]
        refine (steady_timely _).andThen (ask_timely w resolver _ name)
          ((steady_timely _).explore resolver limits below visited _ name w fun next walk => ?_)
        -- A child's own deadline comes no earlier than it is entered.
        obtain ⟨onward, inTime⟩ := ih (visited ++ [name.text])
          (some (deadlineAt limits enclosing w.clock)) (.ofName next) walk
        rw [deadlineAt_some] at inTime
        refine ⟨onward, fun early => ?_⟩
        exact Nat.le_trans (inTime (Nat.le_min.mpr ⟨Nat.le_add_right _ _, early⟩))
          (Nat.min_le_right _ _)

/-! When the nodes of a tree are entered. -/

/-- The node at a position: the numbers of the children that lead to it from the root. -/
def Outcome.nodeAt? (o : Outcome) : List Nat → Option Outcome
  | [] => some o
  | number :: rest => match o.children[number]? with
    | none => none
    | some child => child.nodeAt? rest

theorem Outcome.nodeAt?_of_mem (o node : Outcome) (inTree : node ∈ o.nodes) :
    ∃ position, o.nodeAt? position = some node := by
  induction o using children_induction with
  | step o ih =>
      rcases (mem_nodes o node).mp inTree with rfl | ⟨child, isChild, inChild⟩
      · exact ⟨[], rfl⟩
      · obtain ⟨position, found⟩ := ih child isChild inChild
        obtain ⟨number, isNumber⟩ := List.mem_iff_getElem?.mp isChild
        exact ⟨number :: position, by simp only [nodeAt?, isNumber, found]⟩

structure Entry where
  levels : Nat
  visited : List String
  enclosing : Option Nat
  target : Target
  walk : Walk

namespace Entry

def ofEvaluation (limits : Limits) (domain : String) (depth : Nat) (visited : List String)
    (spent : Nat) : Entry :=
  ⟨limits.maxDepth + 1 - depth, visited, none, .ofText domain, { spent }⟩

def run (resolver : Resolver) (limits : Limits) (e : Entry) : Part Outcome :=
  visit resolver limits e.levels e.visited e.enclosing e.target e.walk

def deadline (limits : Limits) (e : Entry) : Nat :=
  deadlineAt limits e.enclosing e.walk.clock

def asked (resolver : Resolver) (limits : Limits) (e : Entry) (name : DomainName) : Walk :=
  (e.walk.ask resolver (e.deadline limits) name).2

def visitLeads (resolver : Resolver) (limits : Limits) (e : Entry) (name : DomainName) : Visit :=
  visitBelow resolver limits (e.levels - 1) e.visited name (e.deadline limits)

/-- The entry of a lead after its elders, whose visits have left `w`. -/
def lead (limits : Limits) (e : Entry) (name next : DomainName) (w : Walk) : Entry :=
  ⟨e.levels - 1, e.visited ++ [name.text], some (e.deadline limits), .ofName next, w.spend⟩

end Entry

/-- If a walk that begins with the first entry comes to a position below it, then it enters
the node there with the second entry. -/
inductive EntersAt (resolver : Resolver) (limits : Limits) : Entry → List Nat → Entry → Prop
  | self (e : Entry) : EntersAt resolver limits e [] e
  | child {e entry : Entry} {name next : DomainName} {elders later : List DomainName}
      {kids : List Outcome} {w : Walk} {number : Nat} {position : List Nat}
      (named : e.target.name = .ok name)
      (leads : childrenOf resolver name = elders ++ next :: later)
      (counted : elders.length = number)
      (before : Visits (e.visitLeads resolver limits name) (e.asked resolver limits name) elders
        kids w)
      (inside : EntersAt resolver limits (e.lead limits name next w) position entry) :
      EntersAt resolver limits e (number :: position) entry

namespace Visits

variable {visit : Visit} {w after : Walk} {targets : List DomainName} {kids : List Outcome}

theorem deterministic {after' : Walk} {kids' : List Outcome}
    (visits : Visits visit w targets kids after) (visits' : Visits visit w targets kids' after') :
    after = after' := by
  induction visits generalizing kids' with
  | none =>
      cases visits'
      rfl
  | next made _ ih =>
      cases visits' with
      | next made' others' =>
          rw [made] at made'
          cases made'
          exact ih others'

theorem onward (call : ∀ target w, w.clock ≤ (visit target w).2.clock)
    (visits : Visits visit w targets kids after) : w.clock ≤ after.clock := by
  induction visits with
  | none => exact Nat.le_refl _
  | @next w _ _ target _ _ _ made _ ih =>
      have step := call target w.spend
      rw [made] at step
      exact Nat.le_trans step ih

theorem kid_visited {number : Nat} {kid : Outcome} (visits : Visits visit w targets kids after)
    (isKid : kids[number]? = some kid) :
    ∃ elders next later done walk final, targets = elders ++ next :: later ∧
      elders.length = number ∧ Visits visit w elders done walk ∧
      visit next walk.spend = (some kid, final) := by
  induction visits generalizing number with
  | none => cases isKid
  | @next w between _ target rest first _ made _ ih =>
      cases number with
      | zero =>
          cases isKid
          exact ⟨[], target, rest, [], w, between, rfl, rfl, .none w, made⟩
      | succ number =>
          obtain ⟨elders, next, later, done, walk, final, split, counted, before, call⟩ := ih isKid
          exact ⟨target :: elders, next, later, first :: done, walk, final,
            congrArg (target :: ·) split, congrArg (· + 1) counted, .next made before, call⟩

end Visits

theorem EntersAt.andThen {resolver : Resolver} {limits : Limits} {e between entry : Entry}
    {position rest : List Nat} (outer : EntersAt resolver limits e position between)
    (inner : EntersAt resolver limits between rest entry) :
    EntersAt resolver limits e (position ++ rest) entry := by
  induction outer with
  | self => exact inner
  | child named leads counted before _ ih => exact .child named leads counted before (ih inner)

theorem child_entered (resolver : Resolver) (limits : Limits) (number : Nat) (e : Entry)
    (o child : Outcome) (after : Walk) (run : e.run resolver limits = (some o, after))
    (isChild : o.children[number]? = some child) :
    ∃ name next w final, e.levels ≠ 0 ∧ o.domain = name.text ∧
      EntersAt resolver limits e [number] (e.lead limits name next w) ∧
      (e.lead limits name next w).run resolver limits = (some child, final) := by
  obtain ⟨levels, visited, enclosing, target, w⟩ := e
  rcases visit_cases resolver limits levels visited enclosing target w after o run with
    ⟨p, _, rfl⟩ | ⟨below, name, rfl, named, ⟨_, rfl⟩ | ⟨answered, asked, course⟩⟩
  · cases isChild
  · cases isChild
  · obtain ⟨met, others, split, visits⟩ := course.children_visited rfl
    obtain ⟨elders, next, later, done, walk, final, among, counted, before, call⟩ :=
      visits.kid_visited isChild
    have leads : childrenOf resolver name = elders ++ next :: (later ++ others) := by
      rw [childrenOf_eq_targetsOf, split, among, List.append_assoc, List.cons_append]
    obtain rfl : (w.ask resolver (deadlineAt limits enclosing w.clock) name).2 = answered :=
      congrArg Prod.snd asked
    exact ⟨name, next, walk, final, Nat.succ_ne_zero below, course.keeps.1,
      .child named leads counted before (.self _), call⟩

/-- A node of the tree of a visit is what the visit comes to that is entered at its position. -/
theorem nodeAt?_entered (resolver : Resolver) (limits : Limits) (position : List Nat) (e : Entry)
    (o node : Outcome) (after : Walk) (run : e.run resolver limits = (some o, after))
    (isNode : o.nodeAt? position = some node) :
    ∃ entry, EntersAt resolver limits e position entry ∧
      (entry.run resolver limits).1 = some node := by
  induction position generalizing e o after with
  | nil =>
      cases isNode
      exact ⟨e, .self e, congrArg Prod.fst run⟩
  | cons number rest ih =>
      cases isChild : o.children[number]? with
      | none =>
          rw [Outcome.nodeAt?, isChild] at isNode
          cases isNode
      | some child =>
          simp only [Outcome.nodeAt?, isChild] at isNode
          obtain ⟨name, next, w, final, _, _, enters, call⟩ := child_entered resolver limits
            number e o child after run isChild
          obtain ⟨entry, inside, comesTo⟩ := ih _ child final call isNode
          exact ⟨entry, enters.andThen inside, comesTo⟩

theorem entersAt_unique (resolver : Resolver) (limits : Limits) (position : List Nat)
    (e entry entry' : Entry) (enters : EntersAt resolver limits e position entry)
    (enters' : EntersAt resolver limits e position entry') : entry = entry' := by
  induction enters with
  | self =>
      cases enters'
      rfl
  | child named leads counted before _ ih =>
      cases enters' with
      | child named' leads' counted' before' inside' =>
          rw [named] at named'
          cases named'
          rw [leads] at leads'
          obtain ⟨rfl, sameRest⟩ := List.append_inj leads' (counted.trans counted'.symm)
          cases sameRest
          obtain rfl := before.deterministic before'
          exact ih inside'

theorem lead_deadline (limits : Limits) (e : Entry) (name next : DomainName) (w : Walk)
    (onward : e.walk.clock ≤ w.clock) :
    (e.lead limits name next w).deadline limits = e.deadline limits := by
  have own := deadlineAt_le_own limits e.enclosing e.walk.clock
  change min (w.clock + limits.timeoutMs) (e.deadline limits) = e.deadline limits
  apply Nat.min_eq_right
  exact Nat.le_trans own (Nat.add_le_add_right onward _)

theorem lead_onward (resolver : Resolver) (limits : Limits) (e : Entry) (name : DomainName)
    (elders : List DomainName) (kids : List Outcome) (w : Walk)
    (before : Visits (e.visitLeads resolver limits name) (e.asked resolver limits name) elders
      kids w) : (e.asked resolver limits name).clock ≤ w.clock := by
  apply before.onward
  intro target walk
  exact (visit_timely resolver limits _ _ _ _ walk).onward

theorem entersAt_timely (resolver : Resolver) (limits : Limits) (position : List Nat)
    (e entry : Entry) (enters : EntersAt resolver limits e position entry) :
    e.walk.clock ≤ entry.walk.clock ∧ entry.deadline limits = e.deadline limits := by
  induction enters with
  | self => exact ⟨Nat.le_refl _, rfl⟩
  | @child e entry name next elders _ kids w _ _ _ _ _ before _ ih =>
      have asked := (ask_timely e.walk resolver (e.deadline limits) name).onward
      have onward := Nat.le_trans asked (lead_onward resolver limits e name elders kids w before)
      exact ⟨Nat.le_trans onward ih.1, ih.2.trans (lead_deadline limits e name next w onward)⟩

def Outcome.TimedOut (o : Outcome) : Prop :=
  ∃ budgetMs, .timedOut budgetMs ∈ o.ownProblems

def Problem.isTimeout : Problem → Bool
  | .timedOut _ => true
  | _ => false

theorem Outcome.timedOut_iff (o : Outcome) :
    o.ownProblems.any Problem.isTimeout = true ↔ o.TimedOut := by
  rw [List.any_eq_true]
  constructor
  · rintro ⟨p, isOwn, isTimeout⟩
    cases p with
    | timedOut budgetMs => exact ⟨budgetMs, isOwn⟩
    | _ => cases isTimeout
  · rintro ⟨budgetMs, isOwn⟩
    exact ⟨_, isOwn, rfl⟩

instance (o : Outcome) : Decidable o.TimedOut :=
  decidable_of_iff _ o.timedOut_iff

theorem not_timedOut_of_course {limits : Limits} {visit : Visit} {name : DomainName}
    {answer : Except LookupFailure (List String)} {w after : Walk} {o : Outcome}
    (course : Course limits visit (reading name answer) w (firstRecord name answer) o after) :
    ¬ o.TimedOut := by
  obtain ⟨short, gathers⟩ := course.gathers rfl rfl rfl rfl
  rintro ⟨budgetMs, isOwn⟩
  rw [gathers.own] at isOwn
  rcases List.mem_append.mp isOwn with inAnswer | isShort
  · by_cases unpublished : firstText answer = none
    · obtain ⟨_, p, only, kind⟩ := unpublished_problem name answer unpublished
      rw [only] at inAnswer
      obtain rfl := List.mem_singleton.mp inAnswer
      rcases kind with ⟨_, ⟨⟩⟩ | ⟨_, ⟨⟩⟩
    · rcases published_problem name answer unpublished _ inAnswer with ⟨_, ⟨⟩⟩ | ⟨_, ⟨⟩⟩
  · simp [shortfall] at isShort

/-- Only a node whose own deadline is the earliest runs out of its time. -/
theorem entry_timedOut (resolver : Resolver) (limits : Limits) (e : Entry) (o : Outcome)
    (comesTo : (e.run resolver limits).1 = some o) (timedOut : o.TimedOut) :
    e.walk.clock + limits.timeoutMs = e.deadline limits ∧
      o = .failed e.target.spelling (.timedOut limits.timeoutMs) := by
  obtain ⟨levels, visited, enclosing, target, w⟩ := e
  have run : visit resolver limits levels visited enclosing target w = (some o, _) :=
    Prod.ext comesTo rfl
  rcases visit_cases resolver limits levels visited enclosing target w _ o run with
    ⟨p, refused, rfl⟩ | ⟨below, name, _, _, ⟨innermost, rfl⟩ | ⟨_, _, course⟩⟩
  · obtain ⟨budgetMs, isOwn⟩ := timedOut
    obtain rfl := List.mem_singleton.mp isOwn
    have isRefusal := refusal?_isRefusal limits levels visited w.spent target _ refused
    cases isRefusal
  · refine ⟨?_, rfl⟩
    cases enclosing with
    | none => rfl
    | some outer =>
        have earliest := of_decide_eq_true innermost
        exact (Nat.min_eq_left earliest).symm
  · exact absurd timedOut (not_timedOut_of_course course)

/-- What is entered below a node comes after the lookup of the node's name. -/
theorem entersAt_after_lookup (resolver : Resolver) (limits : Limits) (number : Nat)
    (position : List Nat) (e entry : Entry) (name : DomainName)
    (named : e.target.name = .ok name)
    (enters : EntersAt resolver limits e (number :: position) entry) :
    (e.asked resolver limits name).clock ≤ entry.walk.clock := by
  cases enters with
  | child named' _ _ before inside =>
      rw [named] at named'
      cases named'
      have onward := lead_onward resolver limits e name _ _ _ before
      exact Nat.le_trans onward (entersAt_timely resolver limits position _ entry inside).1

section Evaluation

variable (resolver : Resolver) (limits : Limits) (domain : String) (depth : Nat)
  (visited : List String) (spent : Nat)

theorem first_run :
    (Entry.ofEvaluation limits domain depth visited spent).run resolver limits =
      (some (evaluateFrom resolver limits domain depth visited spent).1,
        (evaluateFrom resolver limits domain depth visited spent).2) :=
  evaluateFrom_eq resolver limits domain depth visited spent

theorem first_deadline :
    (Entry.ofEvaluation limits domain depth visited spent).deadline limits = limits.timeoutMs :=
  Nat.zero_add _

theorem evaluateFrom_clock_le :
    (evaluateFrom resolver limits domain depth visited spent).2.clock ≤ limits.timeoutMs := by
  have timely := visit_timely resolver limits (limits.maxDepth + 1 - depth) visited none
    (.ofText domain) { spent := spent }
  rw [evaluateFrom_eq resolver limits domain depth visited spent] at timely
  have inTime := timely.inTime (Nat.zero_le _)
  rwa [show deadlineAt limits none 0 = limits.timeoutMs from Nat.zero_add _] at inTime

theorem entered_at_start (position : List Nat) (entry : Entry) (node : Outcome)
    (enters : EntersAt resolver limits (.ofEvaluation limits domain depth visited spent) position
      entry)
    (comesTo : (entry.run resolver limits).1 = some node) (timedOut : node.TimedOut) :
    entry.walk.clock = 0 := by
  have own := (entry_timedOut resolver limits entry node comesTo timedOut).1
  have shared := (entersAt_timely resolver limits position _ entry enters).2
  rw [shared, first_deadline] at own
  omega

theorem first_lookup_answered (name : DomainName) (slow : 0 < (resolver name).delayMs)
    (answered : (resolver name).delayMs ≤ limits.timeoutMs) :
    0 < ((Entry.ofEvaluation limits domain depth visited spent).asked resolver limits
      name).clock := by
  have inTime : 0 + (resolver name).delayMs ≤
      (Entry.ofEvaluation limits domain depth visited spent).deadline limits := by
    rw [first_deadline]
    omega
  have clock : (Entry.ofEvaluation limits domain depth visited spent).walk.clock = 0 := rfl
  rw [Entry.asked, Walk.ask]
  simp only [Nat.ne_of_gt slow, clock, inTime, ↓reduceIte]
  omega

end Evaluation

/-- An evaluation takes no longer than a single node may. Every node of its tree is entered in
just one way, and a node that ran out of its time was entered when the root was. If the lookup
at the root takes time and is answered, then no node runs out of its time but the root, whose
outcome is then all that is left. -/
theorem evaluateFrom_deadlines (resolver : Resolver) (limits : Limits) (domain : String)
    (depth : Nat) (visited : List String) (spent : Nat) :
    (evaluateFrom resolver limits domain depth visited spent).2.clock ≤ limits.timeoutMs ∧
    (∀ position node,
      (evaluateFrom resolver limits domain depth visited spent).1.nodeAt? position = some node →
      ∃ entry, (∀ other, EntersAt resolver limits
          (.ofEvaluation limits domain depth visited spent) position other ↔ other = entry) ∧
        (entry.run resolver limits).1 = some node ∧
        (node.TimedOut → entry.walk.clock = 0)) ∧
    (∀ name, DomainName.parse domain = .ok name → 0 < (resolver name).delayMs →
      (resolver name).delayMs ≤ limits.timeoutMs →
      (∀ node ∈ (evaluateFrom resolver limits domain depth visited spent).1.nodes,
        ¬ node.TimedOut) ∨
      (evaluateFrom resolver limits domain depth visited spent).1 =
        .failed (DomainName.spelling domain) (.timedOut limits.timeoutMs)) := by
  have run := first_run resolver limits domain depth visited spent
  refine ⟨evaluateFrom_clock_le resolver limits domain depth visited spent, ?_, ?_⟩
  · intro position node isNode
    obtain ⟨entry, enters, comesTo⟩ := nodeAt?_entered resolver limits position _ _ node _ run
      isNode
    refine ⟨entry, ?_, comesTo, entered_at_start resolver limits domain depth visited spent
      position entry node enters comesTo⟩
    intro other
    constructor
    · intro entersOther
      exact entersAt_unique resolver limits position _ other entry entersOther enters
    · rintro rfl
      exact enters
  · intro name parsed slow answered
    by_cases some : ∃ node ∈ (evaluateFrom resolver limits domain depth visited spent).1.nodes,
        node.TimedOut
    · obtain ⟨node, inTree, timedOut⟩ := some
      obtain ⟨position, isNode⟩ := Outcome.nodeAt?_of_mem _ node inTree
      obtain ⟨entry, enters, comesTo⟩ := nodeAt?_entered resolver limits position _ _ node _ run
        isNode
      cases position with
      | nil =>
          -- The root itself.
          cases enters
          cases isNode
          exact Or.inr (entry_timedOut resolver limits _ _ comesTo timedOut).2
      | cons number rest =>
          have start := entered_at_start resolver limits domain depth visited spent _ entry node
            enters comesTo timedOut
          have named := (LookupFailure.parseName_ok domain name).mpr parsed
          have later := entersAt_after_lookup resolver limits number rest _ entry name named enters
          have waited := first_lookup_answered resolver limits domain depth visited spent name slow
            answered
          omega
    · exact Or.inl fun node inTree timedOut => some ⟨node, inTree, timedOut⟩

def waitingZone : Resolver := fun name =>
  if name.text = "a.example" then ⟨.ok ["v=spf1 include:b.example include:c.example"], 0⟩
  else if name.text = "z.example" then ⟨.ok ["v=spf1 include:b.example include:c.example"], 1⟩
  else if name.text = "b.example" then ⟨.ok ["v=spf1 -all"], 51⟩
  else ⟨.ok ["v=spf1 -all"], 0⟩

-- Below `a.example` the include fails and the next one is visited. `z.example` fails as a whole.
theorem waitingZone_deadlines :
    ((evaluateFrom waitingZone ⟨5, 10, 50⟩ "a.example" 0 [] 0).1.includes.map (·.valid) =
        [false, true] ∧
      ∃ node entry,
        (evaluateFrom waitingZone ⟨5, 10, 50⟩ "a.example" 0 [] 0).1.nodeAt? [0] = some node ∧
        node.TimedOut ∧
        EntersAt waitingZone ⟨5, 10, 50⟩ (.ofEvaluation ⟨5, 10, 50⟩ "a.example" 0 [] 0) [0]
          entry ∧
        entry.walk.clock = 0) ∧
    ((evaluateFrom waitingZone ⟨5, 10, 50⟩ "z.example" 0 [] 0).2.clock = 50 ∧
      ∃ name, DomainName.parse "z.example" = .ok name ∧ 0 < (waitingZone name).delayMs ∧
        (waitingZone name).delayMs ≤ 50 ∧
        ((∀ node ∈ (evaluateFrom waitingZone ⟨5, 10, 50⟩ "z.example" 0 [] 0).1.nodes,
          ¬ node.TimedOut) ∨
        (evaluateFrom waitingZone ⟨5, 10, 50⟩ "z.example" 0 [] 0).1 =
          .failed (DomainName.spelling "z.example") (.timedOut 50))) := by
  refine ⟨⟨by decide +kernel, ?_⟩, by decide +kernel, ?_⟩
  · have late : ((evaluateFrom waitingZone ⟨5, 10, 50⟩ "a.example" 0 [] 0).1.nodeAt? [0]).any
        (.timedOut 50 ∈ ·.ownProblems) = true := by decide +kernel
    obtain ⟨node, isNode, own⟩ := Option.any_eq_true _ _ |>.mp late
    have timedOut : node.TimedOut := ⟨50, of_decide_eq_true own⟩
    obtain ⟨entry, only, _, atStart⟩ := (evaluateFrom_deadlines waitingZone ⟨5, 10, 50⟩
      "a.example" 0 [] 0).2.1 [0] node isNode
    exact ⟨node, entry, isNode, timedOut, (only entry).mpr rfl, atStart timedOut⟩
  · have named : ((DomainName.parse "z.example").toOption.any fun name =>
        (waitingZone name).delayMs = 1) = true := by decide +kernel
    cases parsed : DomainName.parse "z.example" with
    | error fault =>
        rw [parsed] at named
        cases named
    | ok name =>
        rw [parsed] at named
        have waits : (waitingZone name).delayMs = 1 := of_decide_eq_true named
        have slow : 0 < (waitingZone name).delayMs := by omega
        have inTime : (waitingZone name).delayMs ≤ 50 := by omega
        exact ⟨name, rfl, slow, inTime, (evaluateFrom_deadlines waitingZone ⟨5, 10, 50⟩
          "z.example" 0 [] 0).2.2 name parsed slow inTime⟩

end SenderAudit.Spf
