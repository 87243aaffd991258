import SenderAudit.Dkim.Probe
import SenderAudit.Dmarc.Check
import SenderAudit.Spf.Evaluation

/-!
The facts that a score is made from. They are read off the outcomes of the three checks;
words stand as they were found, whether or not they mean anything.
-/
namespace SenderAudit.Scorecard

structure SpfFacts where
  published : Bool
  valid : Bool
  qualifier : Option Spf.Qualifier
  lookups : Nat
  firstError : Option String
  deriving DecidableEq, Repr

structure KeyFacts where
  selector : String
  valid : Bool
  keyType : Option String
  keyBits : Option Nat
  testing : Bool
  deriving DecidableEq, Repr

/-- About the policy for failing mail; `reported` says whether an address for reports is
given. -/
structure DmarcFacts where
  published : Bool
  valid : Bool
  policy : Option String
  percentage : Option Nat
  error : Option String
  reported : Bool
  deriving DecidableEq, Repr

structure Evidence where
  spf : SpfFacts
  dkim : List KeyFacts
  dmarc : DmarcFacts
  maxIncludes : Nat
  deriving DecidableEq, Repr

def SpfFacts.of (o : Spf.Outcome) : SpfFacts :=
  { published := o.record.isSome
    valid := o.valid
    qualifier := o.effective
    lookups := o.lookups
    firstError := o.errors.head? }

def KeyFacts.of (o : Dkim.Outcome) : KeyFacts :=
  { selector := o.selector
    valid := o.valid
    keyType := o.keyType
    keyBits := o.keyBits
    testing := o.testing }

def DmarcFacts.of (o : Dmarc.Outcome) : DmarcFacts :=
  { published := o.record.isSome
    valid := o.valid
    policy := o.policy.map (·.word)
    percentage := o.percentage
    error := o.problem.map (·.message)
    reported := !o.rua.isEmpty }

def KeyFacts.isStrong (k : KeyFacts) : Bool :=
  Dkim.isStrong k.keyType k.keyBits

def KeyFacts.size (k : KeyFacts) : Nat :=
  k.keyBits.getD 0

namespace Evidence

/-- Includes and redirects followed: the first record is no part of their budget. -/
def followed (e : Evidence) : Nat :=
  e.spf.lookups - 1

def withinBudget (e : Evidence) : Bool :=
  e.followed ≤ e.maxIncludes

def validKeys (e : Evidence) : List KeyFacts :=
  e.dkim.filter (·.valid)

def hasStrongKey (e : Evidence) : Bool :=
  e.validKeys.any (·.isStrong)

def policy (e : Evidence) : Option String :=
  if e.dmarc.valid then e.dmarc.policy else none

end Evidence

end SenderAudit.Scorecard
