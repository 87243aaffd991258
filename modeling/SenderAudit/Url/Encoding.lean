import SenderAudit.Text.Hexadecimal
import SenderAudit.Text.Utf8

/-!
Percent-encoding. An octet is written as itself or as a percent sign and two digits; which
ones need the digits depends on the part of the address. Only ASCII stands for itself.
-/
namespace SenderAudit.Url

def percent (octet : UInt8) : List Char :=
  ['%', Text.upperHexDigit (octet.toNat / 16), Text.upperHexDigit (octet.toNat % 16)]

/-- The octets of a text, with digits for those outside ASCII and those that `needs` lists. -/
def encoded (needs : Char → Bool) (s : List Char) : List Char :=
  s.flatMap fun c =>
    if c.toNat < 0x80 && !needs c then [c] else (String.utf8EncodeChar c).flatMap percent

def isControl (c : Char) : Bool :=
  c.toNat < 0x20 || c.toNat == 0x7F

def inQuery (c : Char) : Bool :=
  isControl c || " \"#<>'".contains c

def inFragment (c : Char) : Bool :=
  isControl c || [' ', '"', '<', '>', '\x60'].contains c

def inPath (c : Char) : Bool :=
  inFragment c || "#?\x7b\x7d".contains c

def inUserInfo (c : Char) : Bool :=
  inPath c || "/:;=@[\\]^|".contains c

def decoded : List UInt8 → List UInt8
  | 0x25 :: a :: b :: rest =>
      let high := Char.ofNat a.toNat
      let low := Char.ofNat b.toNat
      if Text.isHexDigit high && Text.isHexDigit low then
        (Text.hexValue [high, low]).toUInt8 :: decoded rest
      else 0x25 :: decoded (a :: b :: rest)
  | octet :: rest => octet :: decoded rest
  | [] => []

def isAlphanumOr (signs : List Char) (c : Char) : Bool :=
  c.isAlphanum || signs.contains c

/-- Characters that a form parameter holds as they are. -/
def isFormSafe : Char → Bool :=
  isAlphanumOr ['*', '-', '.', '_']

/-- A name or value of a form parameter: a space becomes a plus sign. -/
def formEncoded (s : List Char) : List Char :=
  s.flatMap fun c =>
    if isFormSafe c then [c]
    else if c = ' ' then ['+']
    else (String.utf8EncodeChar c).flatMap percent

end SenderAudit.Url
