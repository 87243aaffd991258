import SenderAudit.DomainName
import SenderAudit.Lookup.RecordType

/-!
The ways in which a lookup fails, and their wording.
-/
namespace SenderAudit

inductive QueryFault where
  | name (fault : DomainName.Fault)
  | endpoint (reason : String)
  | longUrl (length limit : Nat)
  | stated (reason : String)
  deriving DecidableEq, Repr

def QueryFault.message : QueryFault → String
  | .name fault => fault.message
  | .endpoint reason => s!"cannot build query URL: {reason}"
  | .longUrl length limit => s!"query URL length {length} > {limit}"
  | .stated reason => reason

inductive LookupFailure where
  | invalidInput (name : String) (fault : QueryFault)
  | nameNotFound (name : String)
  | timeout (name : String) (type : RecordType) (budgetMs : Nat)
  | transport (name : String) (status : Option Nat) (reason : String)
  | resolution (name : String) (type : RecordType) (status : Nat)
  deriving DecidableEq, Repr

namespace LookupFailure

def message : LookupFailure → String
  | .invalidInput name fault => s!"invalid query name '{name}': {fault.message}"
  | .nameNotFound name => s!"{name} does not exist (NXDOMAIN)"
  | .timeout name type budgetMs => s!"{type.name} query for {name} timed out after {budgetMs} ms"
  | .transport name status reason =>
      let suffix := match status with
        | none => ""
        | some code => s!" (HTTP {code})"
      s!"DoH transport failure for {name}{suffix}: {reason}"
  | .resolution name type status =>
      s!"{type.name} resolution failed for {name} (DNS status {status})"

/-- The failure to read `input` as a domain name. -/
def ofName (input : String) (fault : DomainName.Fault) : LookupFailure :=
  .invalidInput input (.name fault)

def parseName (input : String) : Except LookupFailure DomainName :=
  (DomainName.parse input).mapError (ofName input)

def parseChild (label domain : String) : Except LookupFailure DomainName := do
  let name ← parseName domain
  (name.child label).mapError (ofName (name.childText label))

def isNameNotFound : LookupFailure → Bool
  | .nameNotFound _ => true
  | _ => false

def isTimeout : LookupFailure → Bool
  | .timeout .. => true
  | _ => false

end LookupFailure

end SenderAudit
