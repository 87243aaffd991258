import SenderAudit.Address.Ipv4
import SenderAudit.Idna.ToAscii
import SenderAudit.Url.Encoding

/-!
Hosts of addresses: a name in ASCII, an IPv4 address in any of its numeric spellings, or an
IPv6 address in brackets. Each has one normal form.
-/
namespace SenderAudit.Url

inductive Fault where
  | relative
  | emptyHost
  | badName
  | badIpv4
  | badIpv6
  | badPort
  deriving DecidableEq, Repr

def Fault.message : Fault → String
  | .relative => "relative URL without a base"
  | .emptyHost => "empty host"
  | .badName => "invalid international domain name"
  | .badIpv4 => "invalid IPv4 address"
  | .badIpv6 => "invalid IPv6 address"
  | .badPort => "invalid port number"

def isForbidden (c : Char) : Bool :=
  isControl c || [' ', '%', '#', '/', ':', '<', '>', '?', '@', '[', '\\', ']', '^', '\x60',
    '{', '|', '}'].contains c

def digitsIn? (base : Nat) (s : List Char) : Option Nat :=
  if s.all fun c => Text.isHexDigit c && Text.hexDigitValue c < base then
    some (s.foldl (fun n c => base * n + Text.hexDigitValue c) 0)
  else none

/-- A number in the base that its first digits tell. -/
def numberPart? : List Char → Option Nat
  | [] => none
  | '0' :: 'x' :: rest | '0' :: 'X' :: rest => digitsIn? 16 rest
  | '0' :: c :: rest => digitsIn? 8 (c :: rest)
  | s => digitsIn? 10 s

/-- The parts between the dots of a name, less one empty part at the end. -/
def nameParts (s : List Char) : List (List Char) :=
  let parts := Text.fields '.' s
  if parts.length > 1 && parts.getLast? == some [] then parts.dropLast else parts

def endsInNumber (s : List Char) : Bool :=
  match (nameParts s).getLast? with
  | some part => Text.isDigits part || (numberPart? part).isSome
  | none => false

/-- The address of numbers of which the last one fills the octets that the others leave. -/
def ipv4Value? (numbers : List Nat) : Option Nat :=
  let octets := numbers.dropLast
  let last := numbers.getLastD 0
  if numbers.length > 4 || octets.any (255 < ·) || last ≥ 1 <<< (32 - 8 * octets.length) then none
  else some (octets.foldr (fun octet rest => octet <<< 24 + rest >>> 8) 0 + last)

def dottedText (n : Nat) : List Char :=
  let octet (shift : Nat) := toString (n >>> shift % 256)
  (Text.joined "." [octet 24, octet 16, octet 8, octet 0]).toList

def ipv4Host? (s : List Char) : Option (List Char) := do
  let numbers ← (nameParts s).mapM numberPart?
  let value ← ipv4Value? numbers
  some (dottedText value)

def groupValues? : List (List Char) → Option (List Nat)
  | [] => some []
  | [part] => match Ipv4.scan? part with
    | some ([a, b, c, d], []) => some [256 * a + b, 256 * c + d]
    | _ => groupValue? part |>.map ([·])
  | part :: rest => do
      let value ← groupValue? part
      let values ← groupValues? rest
      some (value :: values)
where
  groupValue? (part : List Char) : Option Nat :=
    if part.isEmpty || part.length > 4 then none else digitsIn? 16 part

/-- The parts between single colons; nothing has none. -/
def colonParts (s : List Char) : List (List Char) :=
  if s.isEmpty then [] else Text.fields ':' s

def cutPair : List Char → Option (List Char × List Char)
  | ':' :: ':' :: rest => some ([], rest)
  | c :: rest => (cutPair rest).map fun (before, after) => (c :: before, after)
  | [] => none

/-- The eight groups of an address. A pair of colons stands for at least one zero group. -/
def ipv6Groups? (s : List Char) : Option (List Nat) :=
  match cutPair s with
  | none => do
      let values ← groupValues? (colonParts s)
      if values.length = 8 then some values else none
  | some (before, after) => do
      let front ← (colonParts before).mapM groupValues?.groupValue?
      let back ← groupValues? (colonParts after)
      let count := front.length + back.length
      if count < 8 then some (front ++ List.replicate (8 - count) 0 ++ back) else none

/-- The longest run of zero groups, as its start and length; the first of equals. -/
def longestZeros (groups : List Nat) : Nat × Nat :=
  let run (start : Nat) := ((groups.drop start).takeWhile (· == 0)).length
  (List.range groups.length).foldl
    (fun best start => if run start > best.2 then (start, run start) else best) (0, 0)

def hexText (n : Nat) : String :=
  String.ofList (Nat.toDigits 16 n)

/-- The normal form: two colons for the longest run of at least two zero groups. -/
def ipv6Text (groups : List Nat) : List Char :=
  let texts (groups : List Nat) := Text.joined ":" (groups.map hexText)
  let (start, length) := longestZeros groups
  if length < 2 then (texts groups).toList
  else (texts (groups.take start) ++ "::" ++ texts (groups.drop (start + length))).toList

def nameHost (s : List Char) : Except Fault (List Char) :=
  match Utf8.decode? (decoded (Utf8.encode s)) with
  | none => .error .badName
  | some name => match Idna.toAscii? name with
    | none => .error .badName
    | some ascii =>
        if ascii.any isForbidden then .error .badName
        else if ascii.isEmpty then .error .emptyHost
        else if endsInNumber ascii then
          match ipv4Host? ascii with
          | some host => .ok host
          | none => .error .badIpv4
        else .ok ascii

def host : List Char → Except Fault (List Char)
  | [] => .error .emptyHost
  | '[' :: rest =>
      let groups := if rest.getLast? = some ']' then ipv6Groups? rest.dropLast else none
      match groups with
      | some groups => .ok ('[' :: ipv6Text groups ++ [']'])
      | none => .error .badIpv6
  | s => nameHost s

end SenderAudit.Url
