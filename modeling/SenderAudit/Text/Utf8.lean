/-!
UTF-8, one octet at a time. Decoding yields a piece per character and one per
ill-formed sequence, which is the longest stretch that could still have become a
character; `decodeLossy` writes U+FFFD for each such piece, `decode?` refuses them.
-/
namespace SenderAudit.Utf8

def encode (s : List Char) : List UInt8 :=
  s.flatMap String.utf8EncodeChar

def length (s : List Char) : Nat :=
  (s.map Char.utf8Size).foldr (· + ·) 0

/-- A character begun but not complete: the octets still owed, the range in which
the next one must lie, and the bits gathered so far. -/
structure Begun where
  owed : Nat
  low : Nat
  high : Nat
  bits : Nat
  deriving DecidableEq, Repr

inductive Step where
  | char (c : Char)
  | begun (b : Begun)
  | bad
  deriving DecidableEq, Repr

def first (octet : Nat) : Step :=
  if octet < 0x80 then .char (Char.ofNat octet)
  else if octet < 0xC2 then .bad
  else if octet < 0xE0 then .begun ⟨1, 0x80, 0xBF, octet % 32⟩
  else if octet = 0xE0 then .begun ⟨2, 0xA0, 0xBF, 0⟩
  else if octet = 0xED then .begun ⟨2, 0x80, 0x9F, 13⟩
  else if octet < 0xF0 then .begun ⟨2, 0x80, 0xBF, octet % 16⟩
  else if octet = 0xF0 then .begun ⟨3, 0x90, 0xBF, 0⟩
  else if octet < 0xF4 then .begun ⟨3, 0x80, 0xBF, octet % 8⟩
  else if octet = 0xF4 then .begun ⟨3, 0x80, 0x8F, 4⟩
  else .bad

/-- One more octet of a character: none when the octet cannot stand there. -/
def Begun.next (b : Begun) (octet : Nat) : Option Step :=
  if b.low ≤ octet ∧ octet ≤ b.high then
    let bits := 64 * b.bits + octet % 64
    if b.owed ≤ 1 then some (.char (Char.ofNat bits))
    else some (.begun ⟨b.owed - 1, 0x80, 0xBF, bits⟩)
  else none

/-- The pieces of an octet sequence: characters, and `none` for what is ill-formed. -/
def pieces : Option Begun → List UInt8 → List (Option Char)
  | none, [] => []
  | some _, [] => [none]
  | state, octet :: rest =>
      let fresh : Step × List (Option Char) := (first octet.toNat, [])
      let (step, before) := match state with
        | none => fresh
        | some b => match b.next octet.toNat with
          | some step => (step, [])
          | none => (fresh.1, [none])
      match step with
      | .char c => before ++ some c :: pieces none rest
      | .begun b => before ++ pieces (some b) rest
      | .bad => before ++ none :: pieces none rest

def decodeLossy (octets : List UInt8) : List Char :=
  (pieces none octets).map (·.getD '\uFFFD')

def decode? (octets : List UInt8) : Option (List Char) :=
  (pieces none octets).mapM id

end SenderAudit.Utf8
