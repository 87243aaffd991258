import SenderAudit.Dmarc.Policy
import SenderAudit.Lookup.Resolver
import SenderAudit.Text.Decimal

/-!
Checking the policy record of a domain. Of several records the first one counts. Its tags
other than the policy itself may be missing or wrong without making it invalid.
-/
namespace SenderAudit.Dmarc

structure Outcome where
  domain : String
  valid : Bool := false
  record : Option String := none
  policy : Option Policy := none
  problem : Option Problem := none
  subdomainPolicy : Option Policy := none
  percentage : Option Nat := none
  rua : List String := []
  ruf : List String := []
  dkimAlignment : Option Alignment := none
  spfAlignment : Option Alignment := none
  warnings : List Warning := []
  deriving DecidableEq, Repr

def Outcome.fail (o : Outcome) (p : Problem) : Outcome :=
  { o with valid := false, problem := some p }

def version : List Char := "v=dmarc1".toList

/-- Whether a text is a record: the version, and then a semicolon, a blank or the end. -/
def isRecord (text : List Char) : Bool :=
  Text.sameLetters (text.take 8) version &&
    (text.drop 8).head?.all fun c => c == ';' || Text.isBlank c

/-- The texts without those that equal the one before them. -/
def withoutRepeats : List (List Char) → List (List Char)
  | [] => []
  | [s] => [s]
  | s :: t :: rest =>
      if s = t then withoutRepeats (t :: rest) else s :: withoutRepeats (t :: rest)

/-- A value that is read from a tag, and the warnings that reading it gives. -/
abbrev Noted (α : Type) := α × List Warning

def readSubdomainPolicy : Option (List Char) → Noted (Option Policy)
  | none => (none, [])
  | some value => match Policy.ofWord? value with
    | some p => (some p, [])
    | none => (none, [.badSubdomainPolicy (String.ofList (Text.lower value))])

def readPercentage : Option (List Char) → Noted (Option Nat)
  | none => (none, [])
  | some value => match Text.decimal? 100 value with
    | some n => (some n, if n < 100 then [.partialCoverage n] else [])
    | none => (none, [.badPercentage (String.ofList value)])

def isMailAddress (uri : List Char) : Bool :=
  "mailto:".toList.isPrefixOf (Text.lower uri)

def readAddresses (tag : AddressTag) : Option (List Char) → Noted (List String)
  | none => ([], [])
  | some value =>
      let uris := ((Text.fields ',' value).map Text.trim).filter (!·.isEmpty)
      (uris.map String.ofList,
        (uris.filter (!isMailAddress ·)).map fun uri => .notMail tag (String.ofList uri))

def readAlignment (tag : AlignmentTag) : Option (List Char) → Noted (Option Alignment)
  | none => (none, [])
  | some value => match Alignment.ofWord? value with
    | some a => (some a, [])
    | none => (none, [.badAlignment tag (String.ofList (Text.lower value))])

def readOptionalTags (o : Outcome) (ts : List Text.Tag) : Outcome :=
  let value (key : String) := Text.lastValue? key ts
  let subdomainPolicy := readSubdomainPolicy (value "sp")
  let percentage := readPercentage (value "pct")
  let rua := readAddresses .rua (value AddressTag.rua.key)
  let ruf := readAddresses .ruf (value AddressTag.ruf.key)
  let dkimAlignment := readAlignment .adkim (value AlignmentTag.adkim.key)
  let spfAlignment := readAlignment .aspf (value AlignmentTag.aspf.key)
  { o with
    subdomainPolicy := subdomainPolicy.1
    percentage := percentage.1
    rua := rua.1
    ruf := ruf.1
    dkimAlignment := dkimAlignment.1
    spfAlignment := spfAlignment.1
    warnings := o.warnings ++ subdomainPolicy.2 ++ percentage.2 ++ rua.2 ++ ruf.2 ++
      dkimAlignment.2 ++ spfAlignment.2 }

def readPolicy (o : Outcome) : Option (List Char) → Outcome
  | none => o.fail .noPolicy
  | some value => match Policy.ofWord? value with
    | some p => { o with policy := some p, valid := true }
    | none => o.fail (.badPolicy (String.ofList (Text.lower value)))

def candidates (answers : List String) : List (List Char) :=
  (answers.map fun answer => Text.trim answer.toList).filter isRecord

def assess (o : Outcome) (name : DomainName) (answer : Except LookupFailure (List String)) :
    Outcome :=
  match answer with
  | .error failure =>
      o.fail (if failure.isNameNotFound then .nameNotFound failure else .lookupFailed failure)
  | .ok answers => match candidates answers with
    | [] => o.fail (.noRecord name)
    | record :: others =>
        let count := (withoutRepeats (record :: others)).length
        let o := { o with
          record := some (String.ofList record)
          warnings := if count > 1 then [.severalRecords count] else [] }
        let ts := Text.tags true record
        readPolicy (readOptionalTags o ts) (Text.lastValue? "p" ts)

def policyName (domain : String) : Except LookupFailure DomainName :=
  LookupFailure.parseChild "_dmarc" domain

/-- Checks one domain; also the name looked up, if there was one. -/
def check (resolver : Resolver) (domain : String) : Outcome × Option DomainName :=
  let o : Outcome := { domain }
  match policyName domain with
  | .error failure => (o.fail (.badName failure), none)
  | .ok name => (assess o name (resolver name).texts, some name)

end SenderAudit.Dmarc
