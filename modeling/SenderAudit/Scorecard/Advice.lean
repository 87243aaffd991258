import SenderAudit.Scorecard.Points

/-!
Advice: for each category why it has its points, and what would gain more.
-/
namespace SenderAudit.Scorecard

def unknownError : String := "unknown error"

inductive SpfAdvice where
  | unpublished (error : Option String)
  | passesAll
  | invalid (error : Option String)
  | noEnding
  | neutral
  | softFail
  | overBudget (followed limit : Nat)
  | sound
  deriving DecidableEq, Repr

namespace SpfAdvice

def reason : SpfAdvice → String
  | .unpublished error => error.getD "no SPF record published"
  | .passesAll => "SPF ends in +all, which authorizes every host to send"
  | .invalid error => "SPF record is invalid: " ++ error.getD unknownError
  | .noEnding => "SPF record has no effective all mechanism"
  | .neutral => "?all says nothing about unlisted senders"
  | .softFail => "~all only soft-fails unlisted senders"
  | .overBudget followed limit =>
      s!"SPF evaluation follows {followed} include/redirect lookups (limit {limit})"
  | .sound => "SPF record is valid and ends in -all"

def recommendation : SpfAdvice → String
  | .unpublished _ => "publish a TXT record such as 'v=spf1 include:<provider> -all'"
  | .passesAll => "replace +all with -all (or ~all while rolling out)"
  | .invalid _ => "fix the reported SPF errors"
  | .noEnding => "end the record with -all"
  | .neutral => "end the record with -all, or ~all while rolling out"
  | .softFail => "move to -all once every sender is listed"
  | .overBudget .. => "flatten or remove include mechanisms"
  | .sound => "no change needed"

end SpfAdvice

inductive DkimAdvice where
  | noneValid (selectors : String)
  | veryWeak (selector : String) (bits : Nat)
  | weak (selector : String) (bits : Nat)
  | unknownStrength (selector : String)
  | single (selector : String)
  | testing
  | sound (count : Nat)
  deriving DecidableEq, Repr

namespace DkimAdvice

def reason : DkimAdvice → String
  | .noneValid selectors =>
      if selectors.isEmpty then "no DKIM selector was probed"
      else s!"no valid DKIM record for selectors: {selectors}"
  | .veryWeak selector bits => s!"DKIM key for '{selector}' is only {bits} bits"
  | .weak selector bits => s!"DKIM key for '{selector}' is {bits} bits"
  | .unknownStrength selector => s!"DKIM key strength for '{selector}' is unknown"
  | .single selector => s!"only one valid DKIM selector ('{selector}')"
  | .testing => "a DKIM key is still flagged as testing (t=y)"
  | .sound count => s!"{count} valid DKIM selectors with a strong key"

def recommendation : DkimAdvice → String
  | .noneValid _ => "publish a DKIM public key and sign outgoing mail"
  | .veryWeak .. => "rotate to a 2048-bit RSA key immediately"
  | .weak .. => "rotate to a 2048-bit RSA or an Ed25519 key"
  | .unknownStrength _ => "publish a 2048-bit RSA or an Ed25519 key"
  | .single _ => "publish a second selector to allow key rotation"
  | .testing => "remove t=y once signing is verified"
  | .sound _ => "no change needed"

end DkimAdvice

inductive DmarcAdvice where
  | unpublished (error : Option String)
  | invalid (error : Option String)
  | monitorsOnly
  | quarantines
  | noReports
  | partialCoverage
  | sound
  deriving DecidableEq, Repr

namespace DmarcAdvice

def reason : DmarcAdvice → String
  | .unpublished error => error.getD "no DMARC record published"
  | .invalid error => "DMARC record is invalid: " ++ error.getD unknownError
  | .monitorsOnly => "p=none only monitors and never protects"
  | .quarantines => "p=quarantine sends failing mail to spam"
  | .noReports => "no aggregate report address (rua)"
  | .partialCoverage => "policy only covers part of the failing mail (pct < 100)"
  | .sound => "DMARC enforces p=reject with reporting"

def recommendation : DmarcAdvice → String
  | .unpublished _ =>
      "publish 'v=DMARC1; p=none; rua=mailto:<address>' at _dmarc and tighten from there"
  | .invalid _ => "fix the DMARC record so receivers can apply it"
  | .monitorsOnly => "move to p=quarantine, then p=reject"
  | .quarantines => "move to p=reject once reports are clean"
  | .noReports => "add rua=mailto:<address> to receive reports"
  | .partialCoverage => "raise pct to 100"
  | .sound => "no change needed"

end DmarcAdvice

/-- The key with the most bits, the last one among equals. -/
def strongest? (keys : List KeyFacts) : Option KeyFacts :=
  keys.foldl (fun best k => match best with
    | none => some k
    | some b => if b.size ≤ k.size then some k else some b) none

namespace Evidence

def spfAdvice (e : Evidence) : SpfAdvice :=
  if !e.spf.published then .unpublished e.spf.firstError
  else if e.spf.qualifier = some .pass then .passesAll
  else if !e.spf.valid then .invalid e.spf.firstError
  else match e.spf.qualifier with
    | none => .noEnding
    | some .neutral => .neutral
    | some .softFail => .softFail
    | _ => if e.withinBudget then .sound else .overBudget e.followed e.maxIncludes

def dkimAdvice (e : Evidence) : DkimAdvice :=
  match strongest? e.validKeys with
  | none => .noneValid (Text.joined ", " (e.dkim.map (·.selector)))
  | some best =>
      if !e.hasStrongKey then match best.keyBits with
        | none => .unknownStrength best.selector
        | some bits =>
            if bits < 1024 then .veryWeak best.selector bits else .weak best.selector bits
      else if e.validKeys.length < 2 then .single best.selector
      else if e.validKeys.any (·.testing) then .testing
      else .sound e.validKeys.length

def dmarcAdvice (e : Evidence) : DmarcAdvice :=
  if !e.dmarc.published then .unpublished e.dmarc.error
  else match e.policy with
    | none => .invalid e.dmarc.error
    | some "none" => .monitorsOnly
    | some "quarantine" => .quarantines
    | _ =>
        if !e.dmarc.reported then .noReports
        else if e.dmarc.percentage.any (· < 100) then .partialCoverage
        else .sound

def reason (e : Evidence) : Category → String
  | .spf => e.spfAdvice.reason
  | .dkim => e.dkimAdvice.reason
  | .dmarc => e.dmarcAdvice.reason

def recommendation (e : Evidence) : Category → String
  | .spf => e.spfAdvice.recommendation
  | .dkim => e.dkimAdvice.recommendation
  | .dmarc => e.dmarcAdvice.recommendation

end Evidence

end SenderAudit.Scorecard
