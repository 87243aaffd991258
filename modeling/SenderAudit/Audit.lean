import SenderAudit.Scorecard.Advice

/-!
The audit of a domain: its three checks and their score.
-/
namespace SenderAudit

/-- A selector without blanks around it and dots after it, in lower case. -/
def normalSelector? (selector : String) : Option String :=
  match Text.dropTail (· == '.') (Text.trim selector.toList) with
  | [] => none
  | s => some (String.ofList (Text.lower s))

def addSelector (selectors : List String) (selector : String) : List String :=
  match normalSelector? selector with
  | none => selectors
  | some s => if selectors.contains s then selectors else selectors ++ [s]

def addSelectors (selectors more : List String) : List String :=
  more.foldl addSelector selectors

structure AuditOptions where
  selectors : List String := []
  limits : Spf.Limits := {}
  deriving DecidableEq, Repr

structure Report where
  domain : DomainName
  spf : Spf.Outcome
  dkim : List Dkim.Outcome
  dmarc : Dmarc.Outcome
  evidence : Scorecard.Evidence

namespace Report

/-- The first selector with a valid key. -/
def dkimMatch? (r : Report) : Option Dkim.Outcome :=
  r.dkim.find? (·.valid)

def isFullyValid (r : Report) : Bool :=
  r.spf.valid && r.dmarc.valid && r.dkimMatch?.isSome

end Report

structure AuditError where
  failure : LookupFailure
  deriving DecidableEq, Repr

def AuditError.message (e : AuditError) : String :=
  s!"invalid domain: {e.failure.message}"

/-- Audits a domain; also the names looked up, in order. -/
def audit (resolver : Resolver) (domain : String) (options : AuditOptions) :
    Except AuditError (Report × List DomainName) :=
  match LookupFailure.parseName domain with
  | .error failure => .error ⟨failure⟩
  | .ok name =>
      let (spf, walk) := Spf.evaluate resolver options.limits name.text
      let (dkim, keyNames) := Dkim.probeAll resolver name.text options.selectors
      let (dmarc, policyName) := Dmarc.check resolver name.text
      let evidence : Scorecard.Evidence :=
        { spf := .of spf, dkim := dkim.map .of, dmarc := .of dmarc
          maxIncludes := options.limits.maxIncludes }
      .ok ({ domain := name, spf, dkim, dmarc, evidence },
        walk.queried ++ keyNames ++ policyName.toList)

end SenderAudit
