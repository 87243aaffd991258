import SenderAudit.Text.Decimal
import SenderAudit.Text.Hexadecimal

/-!
The tokens of JSON text, one octet at a time. A string is kept as it is written, with its
escapes: whether it denotes characters matters only where it is used. Literals and numbers
are words, and two words never touch.
-/
namespace SenderAudit.Json

inductive Token where
  | openArray
  | closeArray
  | openObject
  | closeObject
  | comma
  | colon
  | word (letters : List Char)
  | text (octets : List UInt8)
  deriving DecidableEq, Repr

def isBlank (octet : UInt8) : Bool :=
  octet == 0x20 || octet == 0x09 || octet == 0x0A || octet == 0x0D

def punctuation? (octet : UInt8) : Option Token :=
  match Char.ofNat octet.toNat with
  | '[' => some .openArray
  | ']' => some .closeArray
  | '{' => some .openObject
  | '}' => some .closeObject
  | ',' => some .comma
  | ':' => some .colon
  | _ => none

def isWordChar (c : Char) : Bool :=
  c.isAlphanum || c == '+' || c == '-' || c == '.'

/-- Letters that may follow a backslash, besides the one before four digits. -/
def isEscapeLetter (c : Char) : Bool :=
  ['"', '\\', '/', 'b', 'f', 'n', 'r', 't'].contains c

/-- Where reading stands: between tokens, in a word, in a string, after a backslash in a
string, or before so many more digits of an escape. What is read of the token comes last
first. -/
inductive Place where
  | between
  | word (letters : List Char)
  | text (octets : List UInt8)
  | escape (octets : List UInt8)
  | digits (octets : List UInt8) (owed : Nat)
  deriving DecidableEq, Repr

def outside? (octet : UInt8) : Option (Place × List Token) :=
  let c := Char.ofNat octet.toNat
  if isBlank octet then some (.between, [])
  else if c = '"' then some (.text [], [])
  else match punctuation? octet with
    | some token => some (.between, [token])
    | none => if isWordChar c then some (.word [c], []) else none

/-- Reads an octet: the place after it and the tokens that it completes, unless it cannot
stand here. -/
def Place.next? (octet : UInt8) : Place → Option (Place × List Token)
  | .between => outside? octet
  | .word letters =>
      let c := Char.ofNat octet.toNat
      if isWordChar c then some (.word (c :: letters), [])
      else (outside? octet).map fun (place, tokens) => (place, .word letters.reverse :: tokens)
  | .text octets =>
      let c := Char.ofNat octet.toNat
      if c = '"' then some (.between, [.text octets.reverse])
      else if c = '\\' then some (.escape (octet :: octets), [])
      else if octet.toNat < 0x20 then none
      else some (.text (octet :: octets), [])
  | .escape octets =>
      let c := Char.ofNat octet.toNat
      if isEscapeLetter c then some (.text (octet :: octets), [])
      else if c = 'u' then some (.digits (octet :: octets) 3, [])
      else none
  | .digits octets owed =>
      if Text.isHexDigit (Char.ofNat octet.toNat) then
        match owed with
        | 0 => some (.text (octet :: octets), [])
        | owed + 1 => some (.digits (octet :: octets) owed, [])
      else none

def Place.last? : Place → Option (List Token)
  | .between => some []
  | .word letters => some [.word letters.reverse]
  | _ => none

/-- The tokens after `place`, with those before it given last first. -/
def readTokens : Place → (done : List Token) → List UInt8 → Option (List Token)
  | place, done, [] => place.last?.map fun tokens => done.reverse ++ tokens
  | place, done, octet :: rest =>
      match place.next? octet with
      | none => none
      | some (place, tokens) => readTokens place (tokens.reverse ++ done) rest

def tokens? (octets : List UInt8) : Option (List Token) :=
  readTokens .between [] octets

def isWhole (s : List Char) : Bool :=
  Text.isDigits s && (s.head? != some '0' || s.length == 1)

def afterMinus : List Char → List Char
  | '-' :: rest => rest
  | s => s

/-- What follows the fraction at the front, if one begun there is complete. -/
def afterFraction? : List Char → Option (List Char)
  | '.' :: rest =>
      if (rest.takeWhile Char.isDigit).isEmpty then none else some (rest.dropWhile Char.isDigit)
  | s => some s

def afterSign : List Char → List Char
  | '+' :: rest | '-' :: rest => rest
  | s => s

def isExponent : List Char → Bool
  | [] => true
  | c :: rest => (c == 'e' || c == 'E') && Text.isDigits (afterSign rest)

def isNumber (s : List Char) : Bool :=
  let s := afterMinus s
  isWhole (s.takeWhile Char.isDigit) &&
    (afterFraction? (s.dropWhile Char.isDigit)).any isExponent

def isWord (s : List Char) : Bool :=
  ["null", "true", "false"].any (·.toList == s) || isNumber s

end SenderAudit.Json
