import SenderAudit.Scorecard.Evidence

/-!
Points. Each criterion awards a fixed number of points under a name; a category has the sum
over the names that begin with its own, kept between zero and its cap.
-/
namespace SenderAudit.Scorecard

inductive Category where
  | spf
  | dkim
  | dmarc
  deriving DecidableEq, Repr

namespace Category

def all : List Category := [.spf, .dkim, .dmarc]

def name : Category → String
  | .spf => "spf"
  | .dkim => "dkim"
  | .dmarc => "dmarc"

def cap : Category → Int
  | .spf => 30
  | .dkim => 30
  | .dmarc => 40

/-- A name of points that belongs to the category. -/
def Names (c : Category) (key : String) : Prop :=
  (c.name ++ ".").toList <+: key.toList

instance (c : Category) (key : String) : Decidable (c.Names key) :=
  inferInstanceAs (Decidable (_ <+: _))

end Category

inductive Criterion where
  | spfPublished
  | spfValid
  | spfEnding
  | spfLookups
  | keyPublished
  | keyStrength
  | severalKeys
  | dmarcPublished
  | dmarcPolicy
  | dmarcReporting
  deriving DecidableEq, Repr

namespace Criterion

def category : Criterion → Category
  | .spfPublished | .spfValid | .spfEnding | .spfLookups => .spf
  | .keyPublished | .keyStrength | .severalKeys => .dkim
  | .dmarcPublished | .dmarcPolicy | .dmarcReporting => .dmarc

def key : Criterion → String
  | .spfPublished => "spf.exists"
  | .spfValid => "spf.syntax"
  | .spfEnding => "spf.all"
  | .spfLookups => "spf.lookups"
  | .keyPublished => "dkim.exists"
  | .keyStrength => "dkim.key_strength"
  | .severalKeys => "dkim.multiple_selectors"
  | .dmarcPublished => "dmarc.exists"
  | .dmarcPolicy => "dmarc.policy"
  | .dmarcReporting => "dmarc.reporting"

def all : List Criterion :=
  [.keyPublished, .keyStrength, .severalKeys, .dmarcPublished, .dmarcPolicy, .dmarcReporting,
    .spfEnding, .spfPublished, .spfLookups, .spfValid]

end Criterion

/-- The points for the qualifier in effect: passing every host counts against a domain. -/
def endingPoints : Option Spf.Qualifier → Int
  | some .fail => 10
  | some .softFail => 5
  | some .neutral | none => 0
  | some .pass => -10

def policyPoints : Option String → Int
  | some "reject" => 15
  | some "quarantine" => 10
  | _ => 0

def award (earned : Bool) (points : Int) : Int :=
  if earned then points else 0

namespace Evidence

def points (e : Evidence) : Criterion → Int
  | .spfPublished => award e.spf.published 10
  | .spfValid => award e.spf.valid 5
  | .spfEnding => endingPoints e.spf.qualifier
  | .spfLookups => award (e.spf.valid && e.withinBudget) 5
  | .keyPublished => award (!e.validKeys.isEmpty) 15
  | .keyStrength => award e.hasStrongKey 10
  | .severalKeys => award (2 ≤ e.validKeys.length) 5
  | .dmarcPublished => award e.dmarc.published 10
  | .dmarcPolicy => policyPoints e.policy
  | .dmarcReporting => award e.dmarc.reported 5

def details (e : Evidence) : List (String × Int) :=
  Criterion.all.map fun c => (c.key, e.points c)

def sumOver (e : Evidence) (c : Category) : Int :=
  ((e.details.filter fun entry => c.Names entry.1).map (·.2)).foldr (· + ·) 0

def score (e : Evidence) (c : Category) : Int :=
  max 0 (min c.cap (e.sumOver c))

def total (e : Evidence) : Int :=
  (Category.all.map e.score).foldr (· + ·) 0

end Evidence

end SenderAudit.Scorecard
