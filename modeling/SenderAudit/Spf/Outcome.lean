import SenderAudit.Lookup.Failure
import SenderAudit.Spf.Record

/-!
What the evaluation of a policy finds: a tree with a node for each domain that includes
and redirects lead to. A node's findings are its own and those of its children, each
under the path on which it was made.
-/
namespace SenderAudit.Spf

inductive Relation where
  | included
  | redirected
  deriving DecidableEq, Repr

def Relation.word : Relation → String
  | .included => "include"
  | .redirected => "redirect"

inductive Problem where
  | tooDeep (maxDepth : Nat)
  | circular (chain : List String)
  | tooManyLookups (spent limit : Nat)
  | badName (failure : LookupFailure)
  | timedOut (budgetMs : Nat)
  | noRecord (failure : Option LookupFailure)
  | lookupFailed (failure : LookupFailure)
  | severalRecords (count : Nat)
  | badRecord (error : ParseError)
  | budgetExhausted (limit : Nat) (relation : Relation) (target : DomainName)
  deriving DecidableEq, Repr

def Problem.message : Problem → String
  | .tooDeep maxDepth => s!"maximum recursion depth ({maxDepth}) exceeded"
  | .circular chain => "circular reference detected: " ++ Text.joined " -> " chain
  | .tooManyLookups spent limit => s!"too many include/redirect lookups ({spent} > {limit})"
  | .badName failure => failure.message
  | .timedOut budgetMs => s!"SPF evaluation timed out after {budgetMs} ms"
  | .noRecord none => "no SPF record found"
  | .noRecord (some failure) => s!"no SPF record found ({failure.message})"
  | .lookupFailed failure => s!"DNS lookup failed: {failure.message}"
  | .severalRecords count => s!"multiple SPF records found ({count}); evaluating the first"
  | .badRecord error => s!"invalid SPF record: {error.message}"
  | .budgetExhausted limit relation target =>
      s!"include/redirect budget of {limit} exhausted at {relation.word} {target.text}"

structure Via where
  relation : Relation
  domain : String
  deriving DecidableEq, Repr

/-- Something found at the end of a path, whose first step comes first. -/
structure Finding (α : Type) where
  path : List Via
  cause : α
  deriving DecidableEq, Repr

namespace Finding

def own (cause : α) : Finding α := ⟨[], cause⟩

def seenVia (step : Via) (f : Finding α) : Finding α :=
  { f with path := step :: f.path }

def message (text : α → String) (f : Finding α) : String :=
  f.path.foldr (fun step rest => s!"{step.relation.word} {step.domain}: {rest}") (text f.cause)

end Finding

/-- The outcome at one domain. `effective` is the qualifier of the record itself or of the
record that it redirects to; `lookups` counts the records that were read below it and
at it. -/
structure Outcome where
  domain : String
  valid : Bool := true
  record : Option String := none
  parsed : Option Record := none
  effective : Option Qualifier := none
  includes : List Outcome := []
  redirect : Option Outcome := none
  lookups : Nat := 0
  problems : List (Finding Problem) := []
  warnings : List (Finding Warning) := []

namespace Outcome

def fail (o : Outcome) (p : Problem) : Outcome :=
  { o with valid := false, problems := o.problems ++ [.own p] }

def failed (domain : String) (p : Problem) : Outcome :=
  ({ domain } : Outcome).fail p

def absorb (o : Outcome) (relation : Relation) (child : Outcome) : Outcome :=
  let step : Via := ⟨relation, child.domain⟩
  { o with
    valid := o.valid && child.valid
    lookups := o.lookups + child.lookups
    problems := o.problems ++ child.problems.map (·.seenVia step)
    warnings := o.warnings ++ child.warnings.map (·.seenVia step) }

def addInclude (o child : Outcome) : Outcome :=
  let o := o.absorb .included child
  { o with includes := o.includes ++ [child] }

/-- A valid target of a redirect replaces the qualifier of the record. -/
def redirectTo (o child : Outcome) : Outcome :=
  let o := o.absorb .redirected child
  { o with
    redirect := some child
    effective := if child.valid then child.effective else o.effective }

def errors (o : Outcome) : List String :=
  o.problems.map (·.message Problem.message)

def notes (o : Outcome) : List String :=
  o.warnings.map (·.message Warning.message)

end Outcome

end SenderAudit.Spf
