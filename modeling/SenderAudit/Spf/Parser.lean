import SenderAudit.Address.Ipv6
import SenderAudit.Spf.Record
import SenderAudit.Spf.Term
import SenderAudit.Text.Decimal

/-!
Reading records. The version comes first; each further term adds to the record or to the
warnings, and the first one that breaks a rule ends the reading.
-/
namespace SenderAudit.Spf

def version : List Char := "v=spf1".toList

/-- A record as far as it is read. A redirect or an explanation counts as seen even if
its target is dropped. -/
structure Draft where
  record : Record := {}
  warnings : List Warning := []
  redirectSeen : Bool := false
  expSeen : Bool := false
  deriving DecidableEq, Repr

namespace Draft

def warn (d : Draft) (w : Warning) : Draft :=
  { d with warnings := d.warnings ++ [w] }

def addTarget (d : Draft) (target : String) (add : Record → DomainName → Record)
    (otherwise : Warning) : Draft :=
  match DomainName.parse target with
  | .ok name => { d with record := add d.record name }
  | .error _ => d.warn otherwise

end Draft

def setModifier (name value : String) : List (String × String) → List (String × String)
  | [] => [(name, value)]
  | (other, old) :: rest =>
      if name = other then (name, value) :: rest
      else if name < other then (name, value) :: (other, old) :: rest
      else (other, old) :: setModifier name value rest

def isNetwork (isAddress : List Char → Bool) (maxLength : Nat) (value : List Char) : Bool :=
  match Text.cut '/' value with
  | some (address, length) => (Text.decimal? maxLength length).isSome && isAddress address
  | none => isAddress value

def takeModifier (d : Draft) (name value : List Char) : Except ParseError Draft :=
  let text := String.ofList value
  if name = "redirect".toList then
    if d.redirectSeen then .error (.duplicateModifier (String.ofList name))
    else .ok ({ d with redirectSeen := true }.addTarget text
      (fun r target => { r with redirect := some target }) (.badRedirect text))
  else if name = "exp".toList then
    if d.expSeen then .error (.duplicateModifier (String.ofList name))
    else .ok ({ d with expSeen := true }.addTarget text
      (fun r target => { r with exp := some target }) (.badExp text))
  else .ok { d with record :=
    { d.record with modifiers := setModifier (String.ofList name) text d.record.modifiers } }

/-- The `all` term counts where it is first spelled with a qualifier. -/
def takeAll (d : Draft) (term : String) : Draft :=
  match Qualifier.ofAllTerm? term with
  | none => d.warn (.unqualifiedAll term)
  | some q =>
      if d.record.all.isNone then { d with record := { d.record with all := some q } }
      else d.warn (.extraAll term)

def required (term : String) (value : Option (List Char)) : Except ParseError (List Char) :=
  match value with
  | some (c :: rest) => .ok (c :: rest)
  | _ => .error (.missingValue term)

/-- What a value names, its prefix length left out. -/
def withoutLength (value : List Char) : List Char :=
  match Text.cut '/' value with
  | some (target, _) => target
  | none => value

def targetOr (domain : String) : Option (List Char) → String
  | some value => String.ofList (withoutLength value)
  | none => domain

def takeMechanism (domain term : String) (d : Draft) (value : Option (List Char)) :
    Mechanism → Except ParseError Draft
  | .all => .ok (takeAll d term)
  | .ip4 => do
      let value ← required term value
      let text := String.ofList value
      if isNetwork Ipv4.isAddress 32 value then
        .ok { d with record := { d.record with ip4 := d.record.ip4 ++ [text] } }
      else .ok (d.warn (.badNetwork .ip4 text))
  | .ip6 => do
      let value ← required term value
      if isNetwork Ipv6.isAddress 128 value then
        let text := String.ofList (Text.lower value)
        .ok { d with record := { d.record with ip6 := d.record.ip6 ++ [text] } }
      else .ok (d.warn (.badNetwork .ip6 (String.ofList value)))
  | .a =>
      let target := targetOr domain value
      .ok (d.addTarget target (fun r name => { r with a := r.a ++ [name] })
        (.badTarget .a target))
  | .mx =>
      let target := targetOr domain value
      .ok (d.addTarget target (fun r name => { r with mx := r.mx ++ [name] })
        (.badTarget .mx target))
  | .included => do
      let target := String.ofList (← required term value)
      .ok (d.addTarget target (fun r name => { r with includes := r.includes ++ [name] })
        (.badTarget .included target))
  | .existing => do
      let target := String.ofList (← required term value)
      .ok (d.addTarget target (fun r name => { r with existing := r.existing ++ [name] })
        (.badTarget .existing target))
  | .ptr => .ok (d.warn .deprecatedPtr)

def takeTerm (domain : String) (d : Draft) (term : List Char) : Except ParseError Draft :=
  match Term.read term with
  | .modifier name value => takeModifier d name value
  | .mechanism name value => match Mechanism.ofName? name with
    | some m => takeMechanism domain (String.ofList term) d value m
    | none => .error (.unknownMechanism (String.ofList term))

def takeTerms (domain : String) : Draft → List (List Char) → Except ParseError Draft
  | d, [] => .ok d
  | d, term :: rest => do takeTerms domain (← takeTerm domain d term) rest

def Record.parse (domain text : String) : Except ParseError (Record × List Warning) :=
  let found := (Text.words text.toList).headD []
  if Text.sameLetters found version then do
    let d ← takeTerms domain {} (Text.words text.toList).tail
    .ok (d.record, d.warnings)
  else .error (.invalidVersion (String.ofList found))

/-- Whether a text presents itself as a record: the version, and then a blank or the end. -/
def isRecord (text : List Char) : Bool :=
  Text.sameLetters (text.take 6) version && (text.drop 6).head?.all Text.isBlank

end SenderAudit.Spf
