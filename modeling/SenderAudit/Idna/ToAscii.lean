import SenderAudit.Idna.Direction
import SenderAudit.Idna.Joining
import SenderAudit.Idna.Mapping
import SenderAudit.Idna.Punycode

/-!
The ASCII form of an internationalized name. The name is mapped and normalized as a
whole and cut at its dots; each label is then checked, and one that holds other
characters than ASCII is written as `xn--` and its punycode. Lengths, hyphens and the
choice of ASCII characters are left to the caller.
-/
namespace SenderAudit.Idna

def acePrefix : List Char := ['x', 'n', '-', '-']

/-- Encoded labels are read, and wide ones written, up to these lengths. -/
def maxEncodedLength : Nat := 2000
def maxWideLength : Nat := 1000

structure Label where
  ascii : List Char
  shown : List Char
  deriving DecidableEq, Repr

def isMappedForm (s : List Char) : Bool :=
  s.all (fate · == .valid) && normalized s == s

/-- The label that `ascii`, less its prefix, encodes. It must need encoding. -/
def encodedLabel? (encoded : List Char) : Option Label := do
  if encoded.length > maxEncodedLength then none
  let shown ← Punycode.decode? encoded
  if !allAscii shown && isMappedForm shown && isWellPlaced shown then
    some ⟨acePrefix ++ encoded, shown⟩
  else none

def label? (s : List Char) : Option Label :=
  if acePrefix.isPrefixOf s then
    if allAscii s then encodedLabel? (s.drop 4) else none
  else if allAscii s then some ⟨s, s⟩
  else if isWellPlaced s && s.length ≤ maxWideLength then
    some ⟨acePrefix ++ Punycode.encode s, s⟩
  else none

def labels? (name : List Char) : Option (List Label) := do
  let s ← mapped? name
  (Text.fields '.' (normalized s)).mapM label?

def toAscii? (name : List Char) : Option (List Char) := do
  let labels ← labels? name
  if labels.any (isRightToLeft ·.shown) && !labels.all (readsOneWay ·.shown) then none
  else some (['.'].intercalate (labels.map (·.ascii)))

end SenderAudit.Idna
