import SenderAudit.Text.Decimal

/-!
Mail exchangers: the data of an answer is a preference and a host. A list of them is kept
in ascending order without repetitions.
-/
namespace SenderAudit

structure MailExchanger where
  preference : Nat
  host : String
  deriving DecidableEq, Repr

namespace MailExchanger

/-- A host's name without final dots, in lower case. -/
def hostName (s : List Char) : List Char :=
  Text.lower (Text.dropTail (· == '.') (Text.trim s))

def parse? (data : String) : Option MailExchanger :=
  match Text.words data.toList with
  | [preference, host] => do
      let preference ← Text.decimal? 65535 preference
      let host := hostName host
      if host.isEmpty then none else some ⟨preference, String.ofList host⟩
  | _ => none

/-- Preferences come first, then hosts by code points. -/
def before (a b : MailExchanger) : Bool :=
  a.preference < b.preference || (a.preference == b.preference && a.host < b.host)

def insert (a : MailExchanger) : List MailExchanger → List MailExchanger
  | [] => [a]
  | b :: rest =>
      if before a b then a :: b :: rest
      else if a = b then b :: rest
      else b :: insert a rest

def collect (answers : List String) : List MailExchanger :=
  (answers.filterMap parse?).foldr insert []

end MailExchanger

end SenderAudit
