import SenderAudit.Dkim.Key
import SenderAudit.Lookup.Resolver

/-!
Probing a domain for the key that a selector names.
-/
namespace SenderAudit.Dkim

inductive Problem where
  | badSelector (selector : String)
  | badName (failure : LookupFailure)
  | nameNotFound (selector : String) (name : DomainName)
  | lookupFailed (failure : LookupFailure)
  | noRecord (selector : String) (name : DomainName)
  | noKey
  deriving DecidableEq, Repr

def Problem.message : Problem → String
  | .badSelector selector => s!"invalid DKIM selector '{selector}'"
  | .badName failure => failure.message
  | .nameNotFound selector name =>
      s!"no DKIM record found for selector '{selector}' (NXDOMAIN: {name.text} does not exist)"
  | .lookupFailed failure => s!"DNS lookup failed: {failure.message}"
  | .noRecord selector name => s!"no DKIM record found for selector '{selector}' at {name.text}"
  | .noKey => "public key (p=) is empty: key revoked or missing"

structure Outcome where
  selector : String
  domain : String
  valid : Bool := false
  record : Option String := none
  problem : Option Problem := none
  keyType : Option String := none
  keyBits : Option Nat := none
  testing : Bool := false
  deriving DecidableEq, Repr

/-- A key of the modern type, or one of at least 2048 bits. -/
def isStrong (keyType : Option String) (keyBits : Option Nat) : Bool :=
  keyType == some "ed25519" || keyBits.any (2048 ≤ ·)

namespace Outcome

def hasStrongKey (o : Outcome) : Bool :=
  isStrong o.keyType o.keyBits

def fail (o : Outcome) (p : Problem) : Outcome :=
  { o with valid := false, problem := some p }

end Outcome

def isSelector (s : List Char) : Bool :=
  !s.isEmpty && s.length ≤ 63 && s.all fun c => c.isAlphanum || c == '-' || c == '_'

def isValidSelector (selector : String) : Bool :=
  isSelector selector.toList

def keyBits? (keyType : String) (publicKey : List Char) : Option Nat :=
  if keyType = "rsa" then some (rsaBits publicKey)
  else if keyType = "ed25519" then some 256
  else none

/-- The outcome of reading a record: a key without a type is an RSA key. -/
def assessRecord (o : Outcome) (record : String) : Outcome :=
  let tags := KeyTags.read record.toList
  let keyType := tags.keyType.getD "rsa"
  let o := { o with record := some record, testing := tags.testing, keyType := some keyType }
  if tags.publicKey.isEmpty then o.fail .noKey
  else { o with valid := true, keyBits := keyBits? keyType tags.publicKey }

def assess (o : Outcome) (name : DomainName) (answer : Except LookupFailure (List String)) :
    Outcome :=
  match answer with
  | .error failure =>
      o.fail (if failure.isNameNotFound then .nameNotFound o.selector name
        else .lookupFailed failure)
  | .ok answers => match findRecord? answers with
    | none => o.fail (.noRecord o.selector name)
    | some record => assessRecord o record

def keyName (selector domain : String) : Except LookupFailure DomainName :=
  LookupFailure.parseChild (selector ++ "._domainkey") domain

/-- Probes for one selector; also the name looked up, if there was one. -/
def probe (resolver : Resolver) (domain selector : String) : Outcome × Option DomainName :=
  let selector := Text.trimmed selector
  let o : Outcome := { selector, domain }
  if !isValidSelector selector then (o.fail (.badSelector selector), none)
  else match keyName selector domain with
    | .error failure => (o.fail (.badName failure), none)
    | .ok name => (assess o name (resolver name).texts, some name)

def probeAll (resolver : Resolver) (domain : String) (selectors : List String) :
    List Outcome × List DomainName :=
  let probes := selectors.map (probe resolver domain)
  (probes.map (·.1), probes.filterMap (·.2))

end SenderAudit.Dkim
