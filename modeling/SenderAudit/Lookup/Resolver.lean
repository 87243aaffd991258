import SenderAudit.Lookup.Failure

/-!
What the checks ask of the name system: the texts published at a name, or why there are
none, and how many milliseconds the answer takes.
-/
namespace SenderAudit

structure Answer where
  texts : Except LookupFailure (List String)
  delayMs : Nat

abbrev Resolver := DomainName → Answer

end SenderAudit
