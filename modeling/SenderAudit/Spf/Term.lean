import SenderAudit.Text.Fields

/-!
The terms of a record. A term with an equals sign after a modifier's name is a modifier;
any other is a mechanism, with a qualifier before it and a value after its first colon.
-/
namespace SenderAudit.Spf

inductive Term where
  | modifier (name value : List Char)
  | mechanism (name : List Char) (value : Option (List Char))
  deriving DecidableEq, Repr

def isModifierName : List Char → Bool
  | [] => false
  | c :: rest =>
      c.isAlpha && rest.all fun c => c.isAlphanum || c == '-' || c == '_' || c == '.'

def isQualifierSign (c : Char) : Bool :=
  c == '+' || c == '-' || c == '~' || c == '?'

def modifier? (term : List Char) : Option (List Char × List Char) :=
  match Text.cut '=' term with
  | some (name, value) => if isModifierName name then some (Text.lower name, value) else none
  | none => none

/-- A mechanism's name in lower case, and its value; a prefix length without a value is
dropped. -/
def mechanismParts (term : List Char) : List Char × Option (List Char) :=
  let body := term.dropWhile isQualifierSign
  match Text.cut ':' body with
  | some (name, value) => (Text.lower name, some value)
  | none => match Text.cut '/' body with
    | some (name, _) => (Text.lower name, none)
    | none => (Text.lower body, none)

def Term.read (term : List Char) : Term :=
  match modifier? term with
  | some (name, value) => .modifier name value
  | none => .mechanism (mechanismParts term).1 (mechanismParts term).2

end SenderAudit.Spf
