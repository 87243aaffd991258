import SenderAudit.Text.Tags
import SenderAudit.Text.Utf8

/-!
Key records of signed mail: where a record begins in an answer, and what its tags say of
the key.
-/
namespace SenderAudit.Dkim

def version : List Char := "v=dkim1".toList

/-- The text from the first place where `pattern` occurs, letters taken without case. -/
def fromFirst? (pattern : List Char) : List Char → Option (List Char)
  | [] => if pattern.isEmpty then some [] else none
  | c :: rest =>
      if Text.sameLetters ((c :: rest).take pattern.length) pattern then some (c :: rest)
      else fromFirst? pattern rest

/-- The record in an answer: from the first version tag on, if a semicolon ends that. -/
def recordIn? (answer : List Char) : Option (List Char) :=
  match fromFirst? version answer with
  | none => none
  | some s =>
      if (Text.trimStart (s.drop version.length)).head? = some ';' then some (Text.trim s)
      else none

def findRecord? (answers : List String) : Option String :=
  (answers.findSome? fun answer => recordIn? answer.toList).map String.ofList

structure KeyTags where
  keyType : Option String
  publicKey : List Char
  testing : Bool
  deriving DecidableEq, Repr

def isTesting (flags : List Char) : Bool :=
  (Text.fields ':' flags).any fun flag => Text.sameLetters (Text.trim flag) ['y']

def KeyTags.read (record : List Char) : KeyTags :=
  let ts := Text.tags false record
  { keyType := (Text.lastValue? "k" ts).map fun value => String.ofList (Text.lower value)
    publicKey := ((Text.lastValue? "p" ts).getD []).filter (!Text.isBlank ·)
    testing := (Text.lastValue? "t" ts).any isTesting }

/-- Sizes of keys in bits by the octets that their encoding has at least. -/
def rsaSteps : List (Nat × Nat) :=
  [(550, 4096), (422, 3072), (294, 2048), (162, 1024), (94, 512)]

/-- An estimate of the size of an RSA key from the length of its encoding in base 64. -/
def rsaBits (publicKey : List Char) : Nat :=
  let octets := Utf8.length (Text.dropTail (· == '=') publicKey) * 3 / 4
  match rsaSteps.find? (·.1 ≤ octets) with
  | some (_, bits) => bits
  | none => octets * 8

end SenderAudit.Dkim
