import SenderAudit.Address.Ipv4
import SenderAudit.Text.Hexadecimal

/-!
Internet addresses of eight groups in hexadecimal. Two colons stand for the one stretch of
zero groups that may be left out, and the last two groups may be written as four octets.
-/
namespace SenderAudit.Ipv6

def group? (s : List Char) : Option (List Char) :=
  let length := (s.takeWhile Text.isHexDigit).length
  if length = 0 || length > 4 then none else some (s.dropWhile Text.isHexDigit)

/-- What follows the colon between two groups; the first group has none before it. -/
def afterColon? : (isFirst : Bool) → List Char → Option (List Char)
  | true, s => some s
  | false, ':' :: s => some s
  | false, _ => none

/-- Reads groups at the front, at most `room` of them: how many there are, whether the
last two are octets, and the rest. -/
def groups : (room : Nat) → (isFirst : Bool) → List Char → Nat × Bool × List Char
  | 0, _, s => (0, false, s)
  | room + 1, isFirst, s =>
      match afterColon? isFirst s with
      | none => (0, false, s)
      | some body =>
          match if room = 0 then none else Ipv4.scan? body with
          | some (_, rest) => (2, true, rest)
          | none => match group? body with
            | none => (0, false, s)
            | some rest =>
                let (count, octets, rest) := groups room false rest
                (count + 1, octets, rest)

def isAddress (s : List Char) : Bool :=
  match groups 8 true s with
  | (count, octets, rest) =>
      if count = 8 then rest.isEmpty
      else if octets then false
      else match rest with
        | ':' :: ':' :: tail => match groups (7 - count) true tail with
          | (_, _, rest) => rest.isEmpty
        | _ => false

end SenderAudit.Ipv6
