import SenderAudit.Lookup.Resolver
import SenderAudit.Spf.Outcome
import SenderAudit.Spf.Parser

/-!
Evaluation of a domain's policy: includes and redirects are followed one at a time in
the order of the record. Three limits bound the walk: its depth, a budget of lookups
which the whole tree shares, and the time that each node may take. Time passes only
while a lookup waits, and a wait ends at the earliest deadline of the nodes on the path;
of several nodes with that deadline the innermost fails.
-/
namespace SenderAudit.Spf

structure Limits where
  maxDepth : Nat := 5
  maxIncludes : Nat := 10
  timeoutMs : Nat := 15000
  deriving DecidableEq, Repr

/-- The state of a walk: the time, the lookups spent on includes and redirects, and the
names looked up, the first one first. -/
structure Walk where
  clock : Nat := 0
  spent : Nat := 0
  queried : List DomainName := []
  deriving DecidableEq, Repr

namespace Walk

/-- Looks a name up. There is no answer if the deadline comes first; an answer without
delay is always in time. -/
def ask (w : Walk) (resolver : Resolver) (deadline : Nat) (name : DomainName) :
    Option (Except LookupFailure (List String)) × Walk :=
  let answer := resolver name
  let queried := w.queried ++ [name]
  if answer.delayMs = 0 then (some answer.texts, { w with queried })
  else if w.clock + answer.delayMs ≤ deadline then
    (some answer.texts, { w with queried, clock := w.clock + answer.delayMs })
  else (none, { w with queried, clock := max w.clock deadline })

def spend (w : Walk) : Walk :=
  { w with spent := w.spent + 1 }

end Walk

/-- Where a walk goes next: the domain as it is spelled, and the name that it denotes. -/
structure Target where
  spelling : String
  name : Except LookupFailure DomainName

namespace Target

def ofName (name : DomainName) : Target :=
  ⟨name.text, .ok name⟩

def ofText (domain : String) : Target :=
  ⟨DomainName.spelling domain, LookupFailure.parseName domain⟩

end Target

/-- The outcome of a part of the walk, or nothing if the deadline of a node further out
cut it short; and the state of the walk after it. -/
abbrev Part (α : Type) := Option α × Walk

abbrev Visit := DomainName → Walk → Part Outcome

/-- Visits the targets of includes in order. Also says whether all were visited and are
valid; the first target that the budget does not reach ends the visits. -/
def followIncludes (limits : Limits) (visit : Visit) :
    List DomainName → Bool → Outcome → Walk → Part (Outcome × Bool)
  | [], sound, o, w => (some (o, sound), w)
  | target :: rest, sound, o, w =>
      if w.spent ≥ limits.maxIncludes then
        (some (o.fail (.budgetExhausted limits.maxIncludes .included target), false), w)
      else match visit target w.spend with
        | (none, w) => (none, w)
        | (some child, w) =>
            followIncludes limits visit rest (sound && child.valid) (o.addInclude child) w

def followRedirect (limits : Limits) (visit : Visit) (target : DomainName) (o : Outcome)
    (w : Walk) : Part Outcome :=
  if w.spent ≥ limits.maxIncludes then
    (some (o.fail (.budgetExhausted limits.maxIncludes .redirected target)), w)
  else match visit target w.spend with
    | (none, w) => (none, w)
    | (some child, w) => (some (o.redirectTo child), w)

def adviceOn (record : Record) : List Warning :=
  (match record.all with
    | some .pass => [.passesAll]
    | some .neutral => [.assertsNothing]
    | _ => []) ++
  if record.all.isSome && record.redirect.isSome then [.redirectIgnored] else []

/-- Follows a record: its includes, and then, if all of them are valid, its redirect. -/
def follow (limits : Limits) (visit : Visit) (record : Record) (o : Outcome) (w : Walk) :
    Part Outcome :=
  match followIncludes limits visit record.includes true o w with
  | (none, w) => (none, w)
  | (some (o, sound), w) => match sound, record.redirect with
    | true, some target => followRedirect limits visit target o w
    | _, _ => (some o, w)

def candidates (answers : List String) : List (List Char) :=
  (answers.map fun answer => Text.trim answer.toList).filter isRecord

def assess (limits : Limits) (visit : Visit) (name : DomainName)
    (answer : Except LookupFailure (List String)) (w : Walk) : Part Outcome :=
  match answer with
  | .error failure =>
      let problem := if failure.isNameNotFound then Problem.noRecord (some failure)
        else .lookupFailed failure
      (some (.failed name.text problem), w)
  | .ok answers => match candidates answers with
    | [] => (some (.failed name.text (.noRecord none)), w)
    | first :: others =>
        let text := String.ofList first
        let o : Outcome := { domain := name.text, record := some text }
        let o := if others.isEmpty then o else o.fail (.severalRecords (others.length + 1))
        match Record.parse name.text text with
        | .error error => (some (o.fail (.badRecord error)), w)
        | .ok (record, warnings) =>
            follow limits visit record
              { o with
                parsed := some record
                effective := record.all
                lookups := 1
                warnings := (warnings ++ adviceOn record).map .own } w

/-- Visits a domain, with `levels` levels of the tree left and the names of `visited`
above it. `enclosing` is the earliest deadline of the nodes further out. -/
def visit (resolver : Resolver) (limits : Limits) : (levels : Nat) → (visited : List String) →
    (enclosing : Option Nat) → Target → Walk → Part Outcome
  | 0, _, _, target, w => (some (.failed target.spelling (.tooDeep limits.maxDepth)), w)
  | levels + 1, visited, enclosing, target, w =>
      if visited.contains target.spelling then
        (some (.failed target.spelling (.circular (visited ++ [target.spelling]))), w)
      else if w.spent > limits.maxIncludes then
        (some (.failed target.spelling (.tooManyLookups w.spent limits.maxIncludes)), w)
      else match target.name with
        | .error failure => (some (.failed target.spelling (.badName failure)), w)
        | .ok name =>
            let own := w.clock + limits.timeoutMs
            let deadline := (enclosing.map (min own)).getD own
            let child := fun next =>
              visit resolver limits levels (visited ++ [name.text]) (some deadline) (.ofName next)
            let part := match w.ask resolver deadline name with
              | (none, w) => (none, w)
              | (some answer, w) => assess limits child name answer w
            match part with
            | (some o, w) => (some o, w)
            | (none, w) =>
                if enclosing.all (own ≤ ·) then
                  (some (.failed target.spelling (.timedOut limits.timeoutMs)), w)
                else (none, w)

/-- Evaluates `domain` as if reached at `depth` below the names of `visited`, with `spent`
lookups already spent. -/
def evaluateFrom (resolver : Resolver) (limits : Limits) (domain : String) (depth : Nat)
    (visited : List String) (spent : Nat) : Outcome × Walk :=
  let target := Target.ofText domain
  match visit resolver limits (limits.maxDepth + 1 - depth) visited none target { spent } with
  | (some o, w) => (o, w)
  | (none, w) => (.failed target.spelling (.timedOut limits.timeoutMs), w)

def evaluate (resolver : Resolver) (limits : Limits) (domain : String) : Outcome × Walk :=
  evaluateFrom resolver limits domain 0 [] 0

end SenderAudit.Spf
