import SenderAudit.Lookup.Failure
import SenderAudit.Text.Tags

/-!
Policies for mail that fails authentication: the words of a record's tags, and what is
said of them.
-/
namespace SenderAudit.Dmarc

inductive Policy where
  | none
  | quarantine
  | reject
  deriving DecidableEq, Repr

namespace Policy

def word : Policy → String
  | .none => "none"
  | .quarantine => "quarantine"
  | .reject => "reject"

def ofWord? (s : List Char) : Option Policy :=
  [none, quarantine, reject].find? fun p => p.word.toList == Text.lower s

end Policy

/-- How closely an authenticated domain must match. -/
inductive Alignment where
  | relaxed
  | strict
  deriving DecidableEq, Repr

namespace Alignment

def word : Alignment → String
  | .relaxed => "r"
  | .strict => "s"

def ofWord? (s : List Char) : Option Alignment :=
  [relaxed, strict].find? fun a => a.word.toList == Text.lower s

end Alignment

inductive AddressTag where
  | rua
  | ruf
  deriving DecidableEq, Repr

def AddressTag.key : AddressTag → String
  | .rua => "rua"
  | .ruf => "ruf"

inductive AlignmentTag where
  | adkim
  | aspf
  deriving DecidableEq, Repr

def AlignmentTag.key : AlignmentTag → String
  | .adkim => "adkim"
  | .aspf => "aspf"

inductive Warning where
  | severalRecords (count : Nat)
  | badSubdomainPolicy (value : String)
  | partialCoverage (percentage : Nat)
  | badPercentage (value : String)
  | notMail (tag : AddressTag) (address : String)
  | badAlignment (tag : AlignmentTag) (value : String)
  deriving DecidableEq, Repr

def Warning.message : Warning → String
  | .severalRecords count => s!"{count} DMARC records published; receivers may ignore all of them"
  | .badSubdomainPolicy value => s!"ignoring invalid subdomain policy '{value}'"
  | .partialCoverage percentage => s!"policy applies to {percentage}% of failing mail only"
  | .badPercentage value => s!"ignoring invalid pct value '{value}'"
  | .notMail tag address => s!"{tag.key} address '{address}' is not a mailto: URI"
  | .badAlignment tag value => s!"ignoring invalid {tag.key} mode '{value}'"

inductive Problem where
  | badName (failure : LookupFailure)
  | nameNotFound (failure : LookupFailure)
  | lookupFailed (failure : LookupFailure)
  | noRecord (name : DomainName)
  | noPolicy
  | badPolicy (value : String)
  deriving DecidableEq, Repr

def Problem.message : Problem → String
  | .badName failure => failure.message
  | .nameNotFound failure => s!"no DMARC record found ({failure.message})"
  | .lookupFailed failure => s!"DNS lookup failed: {failure.message}"
  | .noRecord name => s!"no DMARC record found at {name.text}"
  | .noPolicy => "missing required policy (p) tag"
  | .badPolicy value => s!"invalid policy value '{value}'"

end SenderAudit.Dmarc
