import SenderAudit.Text.Fields

/-!
What the policy of a record is for hosts that no other mechanism names.
-/
namespace SenderAudit.Spf

inductive Qualifier where
  | pass
  | fail
  | softFail
  | neutral
  deriving DecidableEq, Repr

namespace Qualifier

def allTerm : Qualifier → String
  | .pass => "+all"
  | .fail => "-all"
  | .softFail => "~all"
  | .neutral => "?all"

/-- The qualifier of an `all` term in any case. A term without qualifier has none. -/
def ofAllTerm? (term : String) : Option Qualifier :=
  [pass, fail, softFail, neutral].find? fun q => q.allTerm == Text.lowered term

end Qualifier

end SenderAudit.Spf
