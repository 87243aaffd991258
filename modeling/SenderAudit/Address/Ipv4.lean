import SenderAudit.Text.Decimal

/-!
Internet addresses of four octets in dotted decimal notation. An octet has one to three
digits, none of them a leading zero.
-/
namespace SenderAudit.Ipv4

def octet? (s : List Char) : Option (Nat × List Char) :=
  let digits := s.takeWhile Char.isDigit
  let value := Text.digitsValue digits
  if digits.isEmpty || digits.length > 3 || value > 255 || (digits.head? == some '0' && digits.length > 1)
  then none
  else some (value, s.dropWhile Char.isDigit)

/-- Reads `count` more octets at the front, each after a dot. -/
def dotted? : (count : Nat) → List Char → Option (List Nat × List Char)
  | 0, s => some ([], s)
  | count + 1, '.' :: s => do
      let (value, s) ← octet? s
      let (values, s) ← dotted? count s
      some (value :: values, s)
  | _ + 1, _ => none

def scan? (s : List Char) : Option (List Nat × List Char) := do
  let (value, s) ← octet? s
  let (values, s) ← dotted? 3 s
  some (value :: values, s)

def isAddress (s : List Char) : Bool :=
  (scan? s).any fun (_, rest) => rest.isEmpty

end SenderAudit.Ipv4
