/-!
The kinds of record that can be asked for, with their mnemonics and type codes.
-/
namespace SenderAudit

inductive RecordType where
  | a
  | aaaa
  | mx
  | cname
  | txt
  deriving DecidableEq, Repr

namespace RecordType

def name : RecordType → String
  | .a => "A"
  | .aaaa => "AAAA"
  | .mx => "MX"
  | .cname => "CNAME"
  | .txt => "TXT"

def code : RecordType → Nat
  | .a => 1
  | .cname => 5
  | .mx => 15
  | .txt => 16
  | .aaaa => 28

def all : List RecordType := [.a, .aaaa, .mx, .cname, .txt]

def ofName? (s : String) : Option RecordType :=
  all.find? (·.name == s)

end RecordType

end SenderAudit
