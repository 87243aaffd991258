import SenderAudit.Proofs.Spf.Tree
import SenderAudit.Spf.Evaluation

/-!
What a visit can do. A visit is either refused on entry, or explores the node up to its
deadline; what the exploration does depends on the answer at the node's name and, when
there is a record to follow, on the visits of its leads in order.
-/
namespace SenderAudit.Spf

namespace Walk

theorem ask_spent (w : Walk) (resolver : Resolver) (deadline : Nat) (name : DomainName) :
    (w.ask resolver deadline name).2.spent = w.spent := by
  simp only [ask]
  split
  · rfl
  · split <;> rfl

theorem ask_queried (w : Walk) (resolver : Resolver) (deadline : Nat) (name : DomainName) :
    (w.ask resolver deadline name).2.queried = w.queried ++ [name] := by
  simp only [ask]
  split
  · rfl
  · split <;> rfl

theorem ask_answer (w after : Walk) (resolver : Resolver) (deadline : Nat) (name : DomainName)
    (answer : Except LookupFailure (List String))
    (asked : w.ask resolver deadline name = (some answer, after)) :
    answer = (resolver name).texts := by
  simp only [ask] at asked
  split at asked
  · cases asked
    rfl
  · split at asked
    · cases asked
      rfl
    · cases asked

end Walk

/-- Where a record leads: the targets of its includes in order, then that of its redirect. -/
def Record.leads (r : Record) : List (Relation × DomainName) :=
  r.includes.map (Prod.mk .included) ++ r.redirect.toList.map (Prod.mk .redirected)

/-- Follows leads in order. A redirect is passed over unless all includes are sound, and
the first lead that the budget does not reach ends the visits. -/
def followLeads (limits : Limits) (visit : Visit) :
    List (Relation × DomainName) → Bool → Outcome → Walk → Part Outcome
  | [], _, o, w => (some o, w)
  | (relation, target) :: rest, sound, o, w =>
      if relation = .redirected ∧ sound = false then (some o, w)
      else if w.spent ≥ limits.maxIncludes then
        (some (o.fail (.budgetExhausted limits.maxIncludes relation target)), w)
      else match visit target w.spend with
        | (none, w) => (none, w)
        | (some child, w) =>
            followLeads limits visit rest (sound && child.valid) (o.adopt relation child) w

-- Includes and the redirect after them, as two loops and as one.
theorem followIncludes_redirect (limits : Limits) (visit : Visit) (targets : List DomainName)
    (redirect : Option DomainName) (sound : Bool) (o : Outcome) (w : Walk) :
    (match followIncludes limits visit targets sound o w with
      | (none, w) => (none, w)
      | (some (o, sound), w) => match sound, redirect with
        | true, some target => followRedirect limits visit target o w
        | _, _ => (some o, w)) =
      followLeads limits visit (targets.map (Prod.mk .included) ++
        redirect.toList.map (Prod.mk .redirected)) sound o w := by
  induction targets generalizing sound o w with
  | nil =>
      cases redirect with
      | none => cases sound <;> rfl
      | some target =>
          cases sound with
          | false => rfl
          | true =>
              simp only [followIncludes, followRedirect, followLeads, List.map_nil,
                List.nil_append, Option.toList_some, List.map_cons]
              simp only [Bool.true_eq_false, and_false, ↓reduceIte]
              split
              · rfl
              · cases visit target w.spend with
                | mk result after => cases result <;> rfl
  | cons target rest ih =>
      simp only [followIncludes, List.map_cons, List.cons_append, followLeads]
      simp only [reduceCtorEq, false_and, ↓reduceIte]
      by_cases exhausted : w.spent ≥ limits.maxIncludes
      · simp only [exhausted, ↓reduceIte]
      · simp only [exhausted, ↓reduceIte]
        cases visit target w.spend with
        | mk result after =>
            cases result with
            | none => rfl
            | some child => exact ih _ _ _

theorem leads_targets (record : Record) :
    record.leads.map Prod.snd = record.includes ++ record.redirect.toList := by
  simp [Record.leads, Function.comp_def]

theorem follow_eq_followLeads (limits : Limits) (visit : Visit) (record : Record)
    (o : Outcome) (w : Walk) :
    follow limits visit record o w = followLeads limits visit record.leads true o w :=
  followIncludes_redirect limits visit record.includes record.redirect true o w

-- What is wrong with a node stays wrong, whatever its further children come to.
theorem followLeads_valid (limits : Limits) (visit : Visit)
    (leads : List (Relation × DomainName)) (sound : Bool) (o result : Outcome)
    (w after : Walk)
    (run : followLeads limits visit leads sound o w = (some result, after))
    (valid : result.valid = true) : o.valid = true := by
  induction leads generalizing sound o w with
  | nil =>
      cases run
      exact valid
  | cons lead rest ih =>
      obtain ⟨relation, target⟩ := lead
      simp only [followLeads] at run
      split at run
      · cases run
        exact valid
      · split at run
        · cases run
          cases valid
        · split at run
          · cases run
          · -- An outcome with an adopted child is valid only if it was so before.
            have adopted := ih _ _ _ run
            rw [Outcome.adopt_valid, Bool.and_eq_true] at adopted
            exact adopted.1

def Arrives (visit : Visit) : Prop :=
  ∀ target w, ∃ o, (visit target w).1 = some o

theorem followLeads_found (limits : Limits) (visit : Visit) (arrives : Arrives visit)
    (leads : List (Relation × DomainName)) (sound : Bool) (o : Outcome) (w : Walk) :
    ∃ result, (followLeads limits visit leads sound o w).1 = some result := by
  induction leads generalizing sound o w with
  | nil => exact ⟨o, rfl⟩
  | cons lead rest ih =>
      obtain ⟨relation, target⟩ := lead
      simp only [followLeads]
      split
      · exact ⟨_, rfl⟩
      · split
        · exact ⟨_, rfl⟩
        · obtain ⟨child, isSome⟩ := arrives target w.spend
          cases made : visit target w.spend with
          | mk result after =>
              rw [made] at isSome
              cases isSome
              exact ih _ _ _

theorem followLeads_invalid (limits : Limits) (visit : Visit) (arrives : Arrives visit)
    (leads : List (Relation × DomainName)) (sound : Bool) (o : Outcome) (w : Walk)
    (invalid : o.valid = false) :
    ∃ result after, followLeads limits visit leads sound o w = (some result, after) ∧
      result.valid = false := by
  obtain ⟨result, isSome⟩ := followLeads_found limits visit arrives leads sound o w
  have run : followLeads limits visit leads sound o w = (some result, _) := Prod.ext isSome rfl
  refine ⟨result, _, run, ?_⟩
  apply Bool.eq_false_iff.mpr
  intro valid
  rw [followLeads_valid limits visit leads sound o result w _ run valid] at invalid
  cases invalid

/-- The record that is read at a name: the first one among the answers, if it parses. -/
def firstRecord (name : DomainName) (answer : Except LookupFailure (List String)) :
    Option Record :=
  match answer with
  | .error _ => none
  | .ok answers => match candidates answers with
    | [] => none
    | text :: _ => match Record.parse name.text (String.ofList text) with
      | .error _ => none
      | .ok (record, _) => some record

def Unambiguous (answer : Except LookupFailure (List String)) : Prop :=
  ∃ answers text, answer = .ok answers ∧ candidates answers = [text]

structure Outcome.IsDeadEnd (o : Outcome) : Prop where
  invalid : o.valid = false
  childless : o.children = []
  unparsed : o.parsed = none

theorem Outcome.failed_isDeadEnd (domain : String) (p : Problem) :
    (Outcome.failed domain p).IsDeadEnd := ⟨rfl, rfl, rfl⟩

/-- The outcome at a node from which the leads of its record are followed. -/
structure Outcome.IsStart (o : Outcome) (record : Record)
    (answer : Except LookupFailure (List String)) : Prop where
  valid_iff : o.valid = true ↔ Unambiguous answer
  childless : o.children = []
  parsed : o.parsed = some record

/-- What an answer comes to depends on neither the limits nor the walk. -/
theorem assess_cases (name : DomainName) (answer : Except LookupFailure (List String)) :
    (firstRecord name answer = none ∧ ∃ o : Outcome, o.IsDeadEnd ∧
      ∀ limits visit w, assess limits visit name answer w = (some o, w)) ∨
    (∃ record o, firstRecord name answer = some record ∧ Outcome.IsStart o record answer ∧
      ∀ limits visit w, assess limits visit name answer w =
        followLeads limits visit record.leads true o w) := by
  cases answer with
  | error failure => exact Or.inl ⟨rfl, _, Outcome.failed_isDeadEnd _ _, fun _ _ _ => rfl⟩
  | ok answers =>
      cases found : candidates answers with
      | nil =>
          refine Or.inl ⟨by simp [firstRecord, found], _, Outcome.failed_isDeadEnd name.text
            (.noRecord none), fun _ _ _ => ?_⟩
          simp [assess, found]
      | cons text others =>
          cases parsed : Record.parse name.text (String.ofList text) with
          | error error =>
              refine Or.inl ⟨by simp [firstRecord, found, parsed], ?_⟩
              simp only [assess, found, parsed]
              refine ⟨_, ?_, fun _ _ _ => rfl⟩
              split <;> exact ⟨rfl, rfl, rfl⟩
          | ok reading =>
              obtain ⟨record, warnings⟩ := reading
              refine Or.inr ⟨record, ?_⟩
              simp only [assess, found, parsed, firstRecord, follow_eq_followLeads]
              refine ⟨_, trivial, ?_, fun _ _ _ => rfl⟩
              -- With more than one record, the first is followed from an invalid outcome.
              cases others with
              | nil =>
                  refine ⟨?_, rfl, rfl⟩
                  simp [Unambiguous, found]
              | cons second more =>
                  refine ⟨?_, rfl, rfl⟩
                  simp [Unambiguous, found, Outcome.fail]

/-- The earliest deadline on the path to a node that is entered at `now`. -/
def deadlineAt (limits : Limits) (enclosing : Option Nat) (now : Nat) : Nat :=
  (enclosing.map (min (now + limits.timeoutMs))).getD (now + limits.timeoutMs)

def visitBelow (resolver : Resolver) (limits : Limits) (levels : Nat) (visited : List String)
    (name : DomainName) (deadline : Nat) : Visit :=
  fun next => visit resolver limits levels (visited ++ [name.text]) (some deadline)
    (.ofName next)

/-- The visit of a node after its entry, up to `deadline`. -/
def explore (resolver : Resolver) (limits : Limits) (levels : Nat) (visited : List String)
    (deadline : Nat) (name : DomainName) (w : Walk) : Part Outcome :=
  match w.ask resolver deadline name with
  | (none, w) => (none, w)
  | (some answer, w) =>
      assess limits (visitBelow resolver limits levels visited name deadline) name answer w

/-- A node that is cut short fails if no node further out has an earlier deadline. -/
def settle (limits : Limits) (enclosing : Option Nat) (entered : Nat) (spelling : String) :
    Part Outcome → Part Outcome
  | (some o, w) => (some o, w)
  | (none, w) =>
      if enclosing.all (entered + limits.timeoutMs ≤ ·) then
        (some (.failed spelling (.timedOut limits.timeoutMs)), w)
      else (none, w)

theorem settle_walk (limits : Limits) (enclosing : Option Nat) (entered : Nat)
    (spelling : String) (part : Part Outcome) :
    (settle limits enclosing entered spelling part).2 = part.2 := by
  obtain ⟨_ | o, after⟩ := part
  · simp only [settle]
    split <;> rfl
  · rfl

theorem settle_found (limits : Limits) (enclosing : Option Nat) (entered : Nat)
    (spelling : String) (part : Part Outcome) (o : Outcome) (found : part.1 = some o) :
    settle limits enclosing entered spelling part = part := by
  obtain ⟨result, after⟩ := part
  cases found
  rfl

theorem settle_valid (limits : Limits) (enclosing : Option Nat) (entered : Nat)
    (spelling : String) (part : Part Outcome) (o : Outcome) (after : Walk)
    (settled : settle limits enclosing entered spelling part = (some o, after))
    (valid : o.valid = true) : part = (some o, after) := by
  obtain ⟨result, walk⟩ := part
  cases result with
  | some found => exact settled
  | none =>
      simp only [settle] at settled
      split at settled
      · cases settled
        cases valid
      · cases settled

def refusal? (limits : Limits) (levels : Nat) (visited : List String) (spent : Nat)
    (target : Target) : Option Problem :=
  if levels = 0 then some (.tooDeep limits.maxDepth)
  else if target.spelling ∈ visited then some (.circular (visited ++ [target.spelling]))
  else if spent > limits.maxIncludes then some (.tooManyLookups spent limits.maxIncludes)
  else match target.name with
    | .error failure => some (.badName failure)
    | .ok _ => none

theorem refusal?_eq_none (limits : Limits) (levels : Nat) (visited : List String)
    (spent : Nat) (target : Target) (name : DomainName) (fresh : target.spelling ∉ visited)
    (affordable : spent ≤ limits.maxIncludes) (named : target.name = .ok name) :
    refusal? limits (levels + 1) visited spent target = none := by
  simp only [refusal?, Nat.add_one_ne_zero, fresh, Nat.not_lt.mpr affordable, named,
    ↓reduceIte]

theorem visit_refused (resolver : Resolver) (limits : Limits) (levels : Nat)
    (visited : List String) (enclosing : Option Nat) (target : Target) (w : Walk)
    (p : Problem) (refused : refusal? limits levels visited w.spent target = some p) :
    visit resolver limits levels visited enclosing target w =
      (some (.failed target.spelling p), w) := by
  cases levels with
  | zero =>
      cases refused
      rfl
  | succ below =>
      -- The checks follow one another in the same order on both sides.
      simp only [refusal?, Nat.add_one_ne_zero, ↓reduceIte] at refused
      simp only [visit, List.contains_eq_mem, decide_eq_true_eq]
      by_cases seen : target.spelling ∈ visited
      · simp only [seen, ↓reduceIte] at refused ⊢
        cases refused
        rfl
      · by_cases overspent : w.spent > limits.maxIncludes
        · simp only [seen, overspent, ↓reduceIte] at refused ⊢
          cases refused
          rfl
        · simp only [seen, overspent, ↓reduceIte] at refused ⊢
          cases named : target.name with
          | error failure =>
              rw [named] at refused
              cases refused
              rfl
          | ok name =>
              rw [named] at refused
              cases refused

theorem visit_admitted (resolver : Resolver) (limits : Limits) (levels : Nat)
    (visited : List String) (enclosing : Option Nat) (target : Target) (w : Walk)
    (name : DomainName) (fresh : target.spelling ∉ visited)
    (affordable : w.spent ≤ limits.maxIncludes) (named : target.name = .ok name) :
    visit resolver limits (levels + 1) visited enclosing target w =
      settle limits enclosing w.clock target.spelling
        (explore resolver limits levels visited (deadlineAt limits enclosing w.clock) name w) := by
  have notVisited : visited.contains target.spelling = false := by simpa using fresh
  have notSpent : ¬ w.spent > limits.maxIncludes := Nat.not_lt.mpr affordable
  simp only [visit, notVisited, notSpent, named, Bool.false_eq_true, ↓reduceIte]
  rfl

-- A visit is refused, or its target has passed every check on entry.
theorem refusal_cases (limits : Limits) (levels : Nat) (visited : List String) (spent : Nat)
    (target : Target) :
    (∃ p, refusal? limits levels visited spent target = some p) ∨
    (∃ below name, levels = below + 1 ∧ target.spelling ∉ visited ∧
      spent ≤ limits.maxIncludes ∧ target.name = .ok name) := by
  cases levels with
  | zero => exact Or.inl ⟨_, rfl⟩
  | succ below =>
      by_cases seen : target.spelling ∈ visited
      · exact Or.inl ⟨_, by simp [refusal?, seen]; rfl⟩
      · by_cases overspent : spent > limits.maxIncludes
        · exact Or.inl ⟨_, by simp [refusal?, seen, overspent]; rfl⟩
        · cases named : target.name with
          | error failure =>
              exact Or.inl ⟨_, by simp [refusal?, seen, overspent, named]; rfl⟩
          | ok name => exact Or.inr ⟨below, name, rfl, seen, Nat.not_lt.mp overspent, rfl⟩

-- No deadline cuts a visit short that has none around it: it fails itself instead.
theorem visit_outermost (resolver : Resolver) (limits : Limits) (levels : Nat)
    (visited : List String) (target : Target) (w : Walk) :
    ∃ o, (visit resolver limits levels visited none target w).1 = some o := by
  rcases refusal_cases limits levels visited w.spent target with
    ⟨p, refused⟩ | ⟨below, name, rfl, fresh, affordable, named⟩
  · exact ⟨_, congrArg Prod.fst
      (visit_refused resolver limits levels visited none target w p refused)⟩
  · rw [visit_admitted resolver limits below visited none target w name fresh affordable named]
    unfold settle
    split
    · exact ⟨_, rfl⟩
    · exact ⟨_, rfl⟩

theorem evaluateFrom_eq (resolver : Resolver) (limits : Limits) (domain : String)
    (depth : Nat) (visited : List String) (spent : Nat) :
    visit resolver limits (limits.maxDepth + 1 - depth) visited none (.ofText domain)
        { spent := spent } =
      (some (evaluateFrom resolver limits domain depth visited spent).1,
        (evaluateFrom resolver limits domain depth visited spent).2) := by
  obtain ⟨o, found⟩ := visit_outermost resolver limits (limits.maxDepth + 1 - depth) visited
    (.ofText domain) { spent := spent }
  simp only [evaluateFrom]
  generalize visit resolver limits (limits.maxDepth + 1 - depth) visited none
    (.ofText domain) { spent := spent } = result at found
  obtain ⟨_, after⟩ := result
  cases found
  rfl

/-! What holds between a walk and any later part of it. -/

structure Steady (R : Walk → Walk → Prop) : Prop where
  still : ∀ w, R w w
  andThen : ∀ {before between after}, R before between → R between after → R before after
  spend : ∀ w, R w w.spend

namespace Steady

variable {R : Walk → Walk → Prop} (steady : Steady R)

include steady

theorem followLeads (limits : Limits) (visit : Visit) (call : ∀ target w, R w (visit target w).2)
    (leads : List (Relation × DomainName)) (sound : Bool) (o : Outcome) (w : Walk) :
    R w (Spf.followLeads limits visit leads sound o w).2 := by
  induction leads generalizing sound o w with
  | nil => exact steady.still w
  | cons lead rest ih =>
      obtain ⟨relation, target⟩ := lead
      simp only [Spf.followLeads]
      split
      · exact steady.still w
      · split
        · exact steady.still w
        · have spent := steady.andThen (steady.spend w) (call target w.spend)
          cases made : visit target w.spend with
          | mk found after =>
              rw [made] at spent
              cases found with
              | none => exact spent
              | some child => exact steady.andThen spent (ih _ _ after)

/-- The relation holds from the lookup of a node's own name on. -/
theorem explore (resolver : Resolver) (limits : Limits) (levels : Nat) (visited : List String)
    (deadline : Nat) (name : DomainName) (w : Walk)
    (call : ∀ target w, R w (visitBelow resolver limits levels visited name deadline target w).2) :
    R (w.ask resolver deadline name).2
      (Spf.explore resolver limits levels visited deadline name w).2 := by
  unfold Spf.explore
  cases w.ask resolver deadline name with
  | mk answer after =>
      cases answer with
      | none => exact steady.still after
      | some answer =>
          rcases assess_cases name answer with ⟨_, o, _, ends⟩ | ⟨record, o, _, _, follows⟩
          · simp only [ends]
            exact steady.still after
          · simp only [follows]
            exact steady.followLeads limits _ call record.leads true o after

end Steady

end SenderAudit.Spf
