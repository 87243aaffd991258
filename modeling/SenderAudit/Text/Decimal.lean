import SenderAudit.Text.Fields

/-!
Unsigned decimals with an upper bound, as they stand in records: a run of ASCII
digits, leading zeros allowed, with at most one plus sign before it.
-/
namespace SenderAudit.Text

def digitsValue (s : List Char) : Nat :=
  s.foldl (fun n c => 10 * n + (c.toNat - '0'.toNat)) 0

def isDigits (s : List Char) : Bool :=
  !s.isEmpty && s.all Char.isDigit

def afterPlus : List Char → List Char
  | '+' :: rest => rest
  | s => s

/-- The number that `s` denotes, if it is written in digits and is at most `limit`. -/
def decimal? (limit : Nat) (s : List Char) : Option Nat :=
  let digits := afterPlus s
  if isDigits digits && digitsValue digits ≤ limit then some (digitsValue digits) else none

end SenderAudit.Text
