import SenderAudit.Text.Decimal
import SenderAudit.Text.Utf8

/-!
Character-strings in presentation form. The data of one answer is a sequence of quoted
segments, in which a backslash makes the next character plain or, before three digits,
stands for an octet. The octets of a segment are read as UTF-8.
-/
namespace SenderAudit.Txt

def maxSegmentLength : Nat := 255

/-- What three digits after a backslash stand for: an octet, or themselves when they
denote none. -/
def decimalOctets (digits : List Char) : List UInt8 :=
  let n := Text.digitsValue digits
  if n < 256 then [n.toUInt8] else Utf8.encode digits

/-- Where reading stands: between segments, in one, or in an escape within one. The
octets of the segment come last first; the digits of the escape come in order. -/
inductive Place where
  | outside
  | inside (octets : List UInt8)
  | escape (octets : List UInt8) (digits : List Char)
  deriving DecidableEq, Repr

def push (octets new : List UInt8) : List UInt8 :=
  new.reverse ++ octets

/-- Reads a character of a segment: the place after it, and the segment if it closes. -/
def readInside (octets : List UInt8) (c : Char) : Place × Option (List UInt8) :=
  if c = '"' then (.outside, some octets.reverse)
  else if c = '\\' then (.escape octets [], none)
  else (.inside (push octets (String.utf8EncodeChar c)), none)

def Place.next : Place → Char → Place × Option (List UInt8)
  | .outside, c => (if c = '"' then .inside [] else .outside, none)
  | .inside octets, c => readInside octets c
  | .escape octets digits, c =>
      if c.isDigit then
        if digits.length < 2 then (.escape octets (digits ++ [c]), none)
        else (.inside (push octets (decimalOctets (digits ++ [c]))), none)
      else if digits.isEmpty then (.inside (push octets (String.utf8EncodeChar c)), none)
      else readInside (push octets (Utf8.encode digits)) c

def Place.unclosed : Place → List (List UInt8)
  | .outside => []
  | .inside octets => if octets.isEmpty then [] else [octets.reverse]
  | .escape octets digits =>
      let octets := push octets (Utf8.encode digits)
      if octets.isEmpty then [] else [octets.reverse]

def segments : Place → List Char → List (List UInt8)
  | place, [] => place.unclosed
  | place, c :: rest =>
      let (place, closed) := place.next c
      closed.toList ++ segments place rest

def segmentText (octets : List UInt8) : List Char :=
  (Utf8.decodeLossy octets).take maxSegmentLength

/-- The text of one answer: its segments, less the empty ones, with a space between
neighbours. Data without a quote is a text in itself. -/
def reconstruct (data : String) : String :=
  let s := Text.trim data.toList
  if s.contains '"' then
    let texts := ((segments .outside s).map segmentText).filter (!·.isEmpty)
    Text.joined " " (texts.map String.ofList)
  else String.ofList s

end SenderAudit.Txt
