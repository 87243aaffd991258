import SenderAudit.Idna.CompositionTable

/-!
Normalization form C: characters are taken apart, marks put into canonical order, and
each mark joined to the letter before it where a composite exists. Korean syllables are
composed by arithmetic.
-/
namespace SenderAudit.Idna

structure Composite where
  whole : Char
  base : Char
  mark : Char
  deriving DecidableEq, Repr

def Composite.read (entry : List Char) : Composite :=
  let code (s : List Char) := Char.ofNat (Text.hexValue s)
  match Text.cut '=' entry with
  | none => ⟨code entry, code [], code []⟩
  | some (whole, parts) => match Text.cut ',' parts with
    | none => ⟨code whole, code parts, code []⟩
    | some (base, mark) => ⟨code whole, code base, code mark⟩

def composites : List Composite :=
  (Text.words compositePairs.toList).map Composite.read

def classRanges : List (Nat × List Range) :=
  combiningClasses.map fun (k, codes) => (k, ranges codes)

/-- Zero for a letter, else the place of a mark in canonical order. -/
def combiningClass (c : Char) : Nat :=
  ((classRanges.find? fun (_, rs) => covered rs c).map (·.1)).getD 0

/-- A Korean syllable as its first part and its last letter. -/
def syllableParts? (c : Char) : Option (Char × Char) :=
  if 0xAC00 ≤ c.toNat && c.toNat ≤ 0xD7A3 then
    let index := c.toNat - 0xAC00
    let final := index % 28
    if final = 0 then
      some (Char.ofNat (0x1100 + index / 588), Char.ofNat (0x1161 + index % 588 / 28))
    else some (Char.ofNat (c.toNat - final), Char.ofNat (0x11A7 + final))
  else none

def syllable? (a b : Char) : Option Char :=
  let m := a.toNat
  let n := b.toNat
  if 0x1100 ≤ m && m ≤ 0x1112 && 0x1161 ≤ n && n ≤ 0x1175 then
    some (Char.ofNat (0xAC00 + ((m - 0x1100) * 21 + (n - 0x1161)) * 28))
  else if 0xAC00 ≤ m && m ≤ 0xD7A3 && (m - 0xAC00) % 28 = 0 && 0x11A8 ≤ n && n ≤ 0x11C2 then
    some (Char.ofNat (m + (n - 0x11A7)))
  else none

def parts? (c : Char) : Option (Char × Char) :=
  (syllableParts? c).or
    ((composites.find? (·.whole == c)).map fun entry => (entry.base, entry.mark))

def join? (a b : Char) : Option Char :=
  (syllable? a b).or
    ((composites.find? fun entry => entry.base == a && entry.mark == b).map (·.whole))

/-- The parts of a character, and their parts, `depth` levels down. -/
def takeApart : (depth : Nat) → Char → List Char
  | 0, c => [c]
  | depth + 1, c => match parts? c with
    | none => [c]
    | some (a, b) => takeApart depth a ++ takeApart depth b

/-- A mark goes before the marks of a lower class that it precedes. -/
def insertMark (c : Char) : List Char → List Char
  | [] => [c]
  | d :: rest =>
      if combiningClass d ≠ 0 ∧ combiningClass d < combiningClass c then d :: insertMark c rest
      else c :: d :: rest

def inCanonicalOrder (s : List Char) : List Char :=
  s.foldr insertMark []

/-- Joins marks to the letter before them: `letter` is that letter, `kept` the marks that
stand between it and the rest, the last one first. A mark is out of reach behind one of
its own class or a higher one. -/
def joinMarks : (letter : Option Char) → (kept : List Char) → List Char → List Char
  | none, kept, [] => kept.reverse
  | some letter, kept, [] => letter :: kept.reverse
  | none, kept, c :: rest =>
      if combiningClass c = 0 then kept.reverse ++ joinMarks (some c) [] rest
      else joinMarks none (c :: kept) rest
  | some letter, kept, c :: rest =>
      let inReach := match kept with
        | [] => true
        | mark :: _ => combiningClass mark < combiningClass c
      match if inReach then join? letter c else none with
      | some whole => joinMarks (some whole) kept rest
      | none =>
          if combiningClass c = 0 then letter :: kept.reverse ++ joinMarks (some c) [] rest
          else joinMarks (some letter) (c :: kept) rest

/-- Normalization form C. -/
def normalized (s : List Char) : List Char :=
  if allAscii s then s
  -- No character of a name has parts more than three levels down.
  else joinMarks none [] (inCanonicalOrder (s.flatMap (takeApart 4)))

end SenderAudit.Idna
