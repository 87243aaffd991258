import SenderAudit.Proofs.Spf.Deadlines
import SenderAudit.Proofs.Spf.LookupLog

/-!
Protection against cycles. The names above a node are those on its path, because each is added
in the form in which the next target is spelled. A node whose domain stands on its path is
refused before any lookup, so no path looks a name up twice.
-/
namespace SenderAudit.Spf

/-- The domains of the proper ancestors of the node at a position, the root's first. -/
def Outcome.domainsAbove (o : Outcome) : List Nat → List String
  | [] => []
  | number :: rest => match o.children[number]? with
    | none => []
    | some child => o.domain :: child.domainsAbove rest

namespace Entry

/-- The target is spelled as the name that it denotes. -/
def IsPlain (e : Entry) : Prop :=
  ∀ name, e.target.name = .ok name → e.target.spelling = name.text

def Asks (resolver : Resolver) (limits : Limits) (e : Entry) (name : DomainName) : Prop :=
  e.walk.queried ++ [name] <+: (e.run resolver limits).2.queried

theorem lead_isPlain (limits : Limits) (e : Entry) (name next : DomainName) (w : Walk) :
    (e.lead limits name next w).IsPlain := by
  rintro _ ⟨⟩
  rfl

theorem ofEvaluation_isPlain (limits : Limits) (domain : String) (depth : Nat)
    (visited : List String) (spent : Nat) (ascii : Idna.allAscii domain.toList = true) :
    (ofEvaluation limits domain depth visited spent).IsPlain := by
  intro name named
  exact DomainName.spelling_of_ascii domain name ascii
    ((LookupFailure.parseName_ok domain name).mp named)

theorem run_domain (resolver : Resolver) (limits : Limits) (e : Entry) (plain : e.IsPlain)
    (o : Outcome) (comesTo : (e.run resolver limits).1 = some o) :
    o.domain = e.target.spelling := by
  obtain ⟨levels, visited, enclosing, target, w⟩ := e
  have run : visit resolver limits levels visited enclosing target w = (some o, _) :=
    Prod.ext comesTo rfl
  rcases visit_cases resolver limits levels visited enclosing target w _ o run with
    ⟨p, _, rfl⟩ | ⟨below, name, _, named, ⟨_, rfl⟩ | ⟨_, _, course⟩⟩
  · rfl
  · rfl
  · exact course.keeps.1.trans (plain name named).symm

theorem asks_fresh (resolver : Resolver) (limits : Limits) (e : Entry) (name : DomainName)
    (asks : e.Asks resolver limits name) :
    e.target.name = .ok name ∧ e.target.spelling ∉ e.visited := by
  obtain ⟨levels, visited, enclosing, target, w⟩ := e
  unfold Asks run at asks
  rcases refusal_cases limits levels visited w.spent target with
    ⟨p, refused⟩ | ⟨below, own, rfl, fresh, affordable, named⟩
  · rw [visit_refused resolver limits levels visited enclosing target w p refused] at asks
    have shorter := asks.length_le
    rw [List.length_append, List.length_singleton] at shorter
    exact absurd shorter (Nat.not_succ_le_self _)
  · have first := visit_asks_first resolver limits below visited enclosing target w own fresh
      affordable named
    have same := List.prefix_of_prefix_length_le asks first (by simp)
    obtain rfl : name = own := by simpa using same.eq_of_length (by simp)
    exact ⟨named, fresh⟩

end Entry

section Paths

variable {resolver : Resolver} {limits : Limits} {e entry : Entry} {position rest : List Nat}

theorem EntersAt.through (enters : EntersAt resolver limits e (position ++ rest) entry) :
    ∃ between, EntersAt resolver limits e position between ∧
      EntersAt resolver limits between rest entry := by
  induction position generalizing e with
  | nil => exact ⟨e, .self e, enters⟩
  | cons number others ih =>
      cases enters with
      | child named leads counted before inside =>
          obtain ⟨between, outer, inner⟩ := ih inside
          exact ⟨between, .child named leads counted before outer, inner⟩

theorem EntersAt.isPlain (enters : EntersAt resolver limits e position entry)
    (plain : e.IsPlain) : entry.IsPlain := by
  induction enters with
  | self => exact plain
  | child _ _ _ _ _ ih => exact ih (Entry.lead_isPlain _ _ _ _ _)

theorem EntersAt.visited_prefix (enters : EntersAt resolver limits e position entry) :
    e.visited <+: entry.visited := by
  induction enters with
  | self => exact List.prefix_rfl
  | child _ _ _ _ _ ih => exact (List.prefix_append _ _).trans ih

theorem EntersAt.name_visited {number : Nat} {name : DomainName}
    (enters : EntersAt resolver limits e (number :: position) entry)
    (named : e.target.name = .ok name) : name.text ∈ entry.visited := by
  cases enters with
  | child named' _ _ _ inside =>
      rw [named] at named'
      cases named'
      exact inside.visited_prefix.subset (List.mem_append_right _ (List.mem_singleton.mpr rfl))

theorem EntersAt.path {o node : Outcome} {after : Walk}
    (enters : EntersAt resolver limits e position entry)
    (run : e.run resolver limits = (some o, after)) (isNode : o.nodeAt? position = some node) :
    entry.visited = e.visited ++ o.domainsAbove position ∧
      entry.levels + position.length = e.levels := by
  induction position generalizing e o after with
  | nil =>
      cases enters
      exact ⟨(List.append_nil _).symm, rfl⟩
  | cons number rest ih =>
      cases isChild : o.children[number]? with
      | none =>
          rw [Outcome.nodeAt?, isChild] at isNode
          cases isNode
      | some child =>
          simp only [Outcome.nodeAt?, isChild] at isNode
          obtain ⟨name, next, w, final, someLevel, isDomain, toChild, call⟩ := child_entered
            resolver limits number e o child after run isChild
          have throughChild : EntersAt resolver limits e ([number] ++ rest) entry := enters
          obtain ⟨between, toBetween, inside⟩ := throughChild.through
          obtain rfl := entersAt_unique resolver limits [number] e _ _ toChild toBetween
          obtain ⟨isVisited, isLevel⟩ := ih inside call isNode
          constructor
          · rw [isVisited, Outcome.domainsAbove, isChild, isDomain]
            exact List.append_assoc _ _ _
          · have oneLess : (e.lead limits name next w).levels = e.levels - 1 := rfl
            rw [oneLess] at isLevel
            rw [List.length_cons]
            omega

/-- No path from the root looks a name up twice. -/
theorem EntersAt.asks_once {number : Nat} {deeper : Entry} {name : DomainName}
    (enters : EntersAt resolver limits e position entry)
    (below : EntersAt resolver limits e (position ++ number :: rest) deeper)
    (asks : entry.Asks resolver limits name) : ¬ deeper.Asks resolver limits name := by
  intro again
  obtain ⟨between, toBetween, inside⟩ := below.through
  obtain rfl := entersAt_unique resolver limits position e _ _ enters toBetween
  have above := inside.name_visited (Entry.asks_fresh resolver limits entry name asks).1
  obtain ⟨named, fresh⟩ := Entry.asks_fresh resolver limits deeper name again
  have plain : deeper.IsPlain := by
    cases inside with
    | child _ _ _ _ inside => exact inside.isPlain (Entry.lead_isPlain _ _ _ _ _)
  rw [plain name named] at fresh
  exact fresh above

end Paths

/-- A visit to what stands above it is refused: for its depth if no levels are left, and else
for the cycle that it would close. -/
theorem Entry.run_repeated (resolver : Resolver) (limits : Limits) (e : Entry)
    (repeated : e.target.spelling ∈ e.visited) :
    e.run resolver limits = (some (.failed e.target.spelling
      (if e.levels = 0 then .tooDeep limits.maxDepth
        else .circular (e.visited ++ [e.target.spelling]))), e.walk) := by
  apply visit_refused
  unfold refusal?
  by_cases bottom : e.levels = 0
  · simp only [bottom, ↓reduceIte]
  · simp only [bottom, repeated, ↓reduceIte]

/-- A node of an evaluation whose domain stands on its path, that is among the names visited
beforehand and the domains of its ancestors, is refused: its visit leaves the walk as it was,
and its outcome is just the one error. No path looks up a name twice, nor one visited
beforehand, whether or not a deadline discards it later. -/
theorem evaluateFrom_cycles (resolver : Resolver) (limits : Limits) (domain : String)
    (depth : Nat) (visited : List String) (spent : Nat)
    (ascii : Idna.allAscii domain.toList = true) :
    (∀ position node,
      (evaluateFrom resolver limits domain depth visited spent).1.nodeAt? position = some node →
      node.domain ∈ visited ++ (evaluateFrom resolver limits domain depth visited
        spent).1.domainsAbove position →
      (∃ entry, (∀ other, EntersAt resolver limits
          (.ofEvaluation limits domain depth visited spent) position other ↔ other = entry) ∧
        entry.run resolver limits = (some node, entry.walk)) ∧
      node.record = none ∧ node.parsed = none ∧ node.children = [] ∧ node.valid = false ∧
      node.errors = [if limits.maxDepth < depth + position.length then
          s!"maximum recursion depth ({limits.maxDepth}) exceeded"
        else "circular reference detected: " ++ Text.joined " -> " (visited ++
          (evaluateFrom resolver limits domain depth visited spent).1.domainsAbove position ++
            [node.domain])]) ∧
    (∀ position entry name,
      EntersAt resolver limits (.ofEvaluation limits domain depth visited spent) position entry →
      entry.Asks resolver limits name →
      name.text ∉ visited ∧ ∀ number rest deeper,
        EntersAt resolver limits (.ofEvaluation limits domain depth visited spent)
          (position ++ number :: rest) deeper → ¬ deeper.Asks resolver limits name) := by
  have run := first_run resolver limits domain depth visited spent
  have plain := Entry.ofEvaluation_isPlain limits domain depth visited spent ascii
  constructor
  · intro position node isNode onPath
    obtain ⟨entry, enters, comesTo⟩ := nodeAt?_entered resolver limits position _ _ node _ run
      isNode
    obtain ⟨isVisited, isLevel⟩ := enters.path run isNode
    have isDomain := Entry.run_domain resolver limits entry (enters.isPlain plain) node comesTo
    have repeated : entry.target.spelling ∈ entry.visited := by
      rw [isVisited, ← isDomain]
      exact onPath
    have refused := Entry.run_repeated resolver limits entry repeated
    have deep : entry.levels = 0 ↔ limits.maxDepth < depth + position.length := by
      change entry.levels + position.length = limits.maxDepth + 1 - depth at isLevel
      omega
    rw [refused] at comesTo
    cases comesTo
    refine ⟨⟨entry, ?_, refused⟩, rfl, rfl, rfl, rfl, ?_⟩
    · intro other
      exact ⟨fun entersOther => entersAt_unique resolver limits position _ other entry
        entersOther enters, by rintro rfl; exact enters⟩
    · rw [isVisited]
      by_cases bottom : entry.levels = 0
      · simp only [bottom, deep.mp bottom, ↓reduceIte]
        rfl
      · simp only [bottom, mt deep.mpr bottom, ↓reduceIte]
        rfl
  · intro position entry name enters asks
    obtain ⟨named, fresh⟩ := Entry.asks_fresh resolver limits entry name asks
    rw [enters.isPlain plain name named] at fresh
    refine ⟨fun old => fresh (enters.visited_prefix.subset old), ?_⟩
    intro number rest deeper below
    exact enters.asks_once below asks

def loopZone : Resolver := fun name =>
  if name.text = "a.example" then ⟨.ok ["v=spf1 include:b.example include:z.example"], 3⟩
  else if name.text = "b.example" then ⟨.ok ["v=spf1 include:c.example redirect=a.example"], 0⟩
  else ⟨.ok ["v=spf1 -all"], 1⟩

-- The first repetition is a cycle; with fewer levels the second lies too deep.
theorem loopZone_cycles :
    Idna.allAscii "A.example.".toList = true ∧
    (∃ node, (evaluateFrom loopZone ⟨3, 9, 50⟩ "A.example." 1 ["z.example"] 0).1.nodeAt? [0, 1] =
        some node ∧
      node.domain ∈ ["z.example"] ++ (evaluateFrom loopZone ⟨3, 9, 50⟩ "A.example." 1 ["z.example"]
        0).1.domainsAbove [0, 1] ∧
      (∃ entry, (∀ other, EntersAt loopZone ⟨3, 9, 50⟩
          (.ofEvaluation ⟨3, 9, 50⟩ "A.example." 1 ["z.example"] 0) [0, 1] other ↔
            other = entry) ∧
        entry.run loopZone ⟨3, 9, 50⟩ = (some node, entry.walk)) ∧
      node.children = [] ∧ node.errors =
        ["circular reference detected: z.example -> a.example -> b.example -> a.example"]) ∧
    (∃ node, (evaluateFrom loopZone ⟨1, 9, 50⟩ "A.example." 1 ["z.example"] 0).1.nodeAt? [1] =
        some node ∧
      node.domain ∈ ["z.example"] ++ (evaluateFrom loopZone ⟨1, 9, 50⟩ "A.example." 1 ["z.example"]
        0).1.domainsAbove [1] ∧
      node.valid = false ∧ node.errors = ["maximum recursion depth (1) exceeded"]) ∧
    (∃ name, name.text = "a.example" ∧
      (Entry.ofEvaluation ⟨3, 9, 50⟩ "A.example." 1 ["z.example"] 0).Asks loopZone ⟨3, 9, 50⟩
        name ∧
      name.text ∉ ["z.example"] ∧ ∀ number rest deeper, EntersAt loopZone ⟨3, 9, 50⟩
        (.ofEvaluation ⟨3, 9, 50⟩ "A.example." 1 ["z.example"] 0) ([] ++ number :: rest) deeper →
        ¬ deeper.Asks loopZone ⟨3, 9, 50⟩ name) := by
  have ascii : Idna.allAscii "A.example.".toList = true := by decide
  refine ⟨ascii, ?_, ?_, ?_⟩
  · have found : ((evaluateFrom loopZone ⟨3, 9, 50⟩ "A.example." 1 ["z.example"] 0).1.nodeAt?
          [0, 1]).map (·.domain) = some "a.example" ∧
        (evaluateFrom loopZone ⟨3, 9, 50⟩ "A.example." 1 ["z.example"] 0).1.domainsAbove [0, 1] =
          ["a.example", "b.example"] := by decide +kernel
    obtain ⟨isThere, above⟩ := found
    obtain ⟨node, isNode, isDomain⟩ := Option.map_eq_some_iff.mp isThere
    have onPath : node.domain ∈ ["z.example"] ++ (evaluateFrom loopZone ⟨3, 9, 50⟩ "A.example." 1
        ["z.example"] 0).1.domainsAbove [0, 1] := by
      rw [isDomain, above]
      decide
    obtain ⟨entered, _, _, childless, _, errors⟩ := (evaluateFrom_cycles loopZone ⟨3, 9, 50⟩
      "A.example." 1 ["z.example"] 0 ascii).1 [0, 1] node isNode onPath
    refine ⟨node, isNode, onPath, entered, childless, errors.trans ?_⟩
    rw [isDomain, above]
    decide +kernel
  · have found : ((evaluateFrom loopZone ⟨1, 9, 50⟩ "A.example." 1 ["z.example"] 0).1.nodeAt?
        [1]).any (·.domain = "z.example") = true := by decide +kernel
    obtain ⟨node, isNode, isThere⟩ := Option.any_eq_true _ _ |>.mp found
    have isDomain : node.domain = "z.example" := of_decide_eq_true isThere
    have onPath : node.domain ∈ ["z.example"] ++ (evaluateFrom loopZone ⟨1, 9, 50⟩ "A.example." 1
        ["z.example"] 0).1.domainsAbove [1] := by
      rw [isDomain]
      decide
    obtain ⟨_, _, _, _, invalid, errors⟩ := (evaluateFrom_cycles loopZone ⟨1, 9, 50⟩
      "A.example." 1 ["z.example"] 0 ascii).1 [1] node isNode onPath
    refine ⟨node, isNode, onPath, invalid, errors.trans ?_⟩
    rw [isDomain]
    decide +kernel
  · have first : ((evaluateFrom loopZone ⟨3, 9, 50⟩ "A.example." 1 ["z.example"]
        0).2.queried.head?.any fun name => name.text = "a.example" ∧
          [name] <+: (evaluateFrom loopZone ⟨3, 9, 50⟩ "A.example." 1 ["z.example"]
            0).2.queried) = true := by decide +kernel
    obtain ⟨name, _, isFirst⟩ := Option.any_eq_true _ _ |>.mp first
    obtain ⟨isName, starts⟩ := of_decide_eq_true isFirst
    have asks : (Entry.ofEvaluation ⟨3, 9, 50⟩ "A.example." 1 ["z.example"] 0).Asks loopZone
        ⟨3, 9, 50⟩ name := by
      rw [Entry.Asks, first_run]
      dsimp only [Entry.ofEvaluation, List.nil_append]
      exact starts
    exact ⟨name, isName, asks, (evaluateFrom_cycles loopZone ⟨3, 9, 50⟩ "A.example." 1
      ["z.example"] 0 ascii).2 [] _ name (.self _) asks⟩

end SenderAudit.Spf
