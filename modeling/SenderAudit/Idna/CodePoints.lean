import SenderAudit.Text.Fields
import SenderAudit.Text.Hexadecimal

/-!
Sets of code points written as text: hexadecimal numbers and ranges `first-last`, with
blanks between them.
-/
namespace SenderAudit.Idna

structure Range where
  first : Nat
  last : Nat
  deriving DecidableEq, Repr

def Range.has (r : Range) (n : Nat) : Bool :=
  r.first ≤ n && n ≤ r.last

def Range.read (s : List Char) : Range :=
  match Text.cut '-' s with
  | some (first, last) => ⟨Text.hexValue first, Text.hexValue last⟩
  | none => ⟨Text.hexValue s, Text.hexValue s⟩

def ranges (codes : String) : List Range :=
  (Text.words codes.toList).map Range.read

def covered (rs : List Range) (c : Char) : Bool :=
  rs.any (·.has c.toNat)

def isAscii (c : Char) : Bool :=
  c.toNat < 0x80

def allAscii (s : List Char) : Bool :=
  s.all isAscii

end SenderAudit.Idna
