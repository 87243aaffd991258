import SenderAudit.Idna.CodePoints

/-!
Punycode: a label of any characters written with ASCII letters, digits and hyphens. The
ASCII characters come first, then, after a hyphen, where to insert which of the others,
as numbers in base 36 whose digits have varying thresholds.
-/
namespace SenderAudit.Idna.Punycode

def threshold (place bias : Nat) : Nat :=
  if place ≤ bias then 1 else if place ≥ bias + 26 then 26 else place - bias

def shrink (delta steps : Nat) : Nat × Nat :=
  if h : delta ≤ 455 then (delta, steps)
  else shrink (delta / 35) (steps + 36)
termination_by delta
decreasing_by omega

/-- The bias for the next number, after one of size `delta` for a text of `count`
characters. -/
def adapt (delta count : Nat) (isFirst : Bool) : Nat :=
  let damped := if isFirst then delta / 700 else delta / 2
  let (rest, steps) := shrink (damped + damped / count) 0
  steps + 36 * rest / (rest + 38)

def digit? (c : Char) : Option Nat :=
  if c.isDigit then some (c.toNat - '0'.toNat + 26)
  else if c.isLower then some (c.toNat - 'a'.toNat)
  else if c.isUpper then some (c.toNat - 'A'.toNat)
  else none

def digit (n : Nat) : Char :=
  if n < 26 then Char.ofNat ('a'.toNat + n) else Char.ofNat ('0'.toNat + (n - 26))

def bound : Nat := UInt32.size

/-- Where decoding stands: the text so far, the code point and position of the latest
insertion, the bias, and of the number being read its start, weight and place. -/
structure Reading where
  text : List Char
  code : Nat
  position : Nat
  bias : Nat
  start : Nat
  weight : Nat
  place : Nat

def Reading.insert? (r : Reading) : Option Reading :=
  let count := r.text.length + 1
  let code := r.code + r.position / count
  let position := r.position % count
  if code < bound ∧ Nat.isValidChar code then
    some {
      text := r.text.take position ++ Char.ofNat code :: r.text.drop position
      code, position := position + 1, bias := adapt (r.position - r.start) count (r.start == 0)
      start := position + 1, weight := 1, place := 36 }
  else none

def Reading.next? (r : Reading) (c : Char) : Option Reading := do
  let d ← digit? c
  let position := r.position + d * r.weight
  if position < bound then
    let t := threshold r.place r.bias
    let r := { r with position }
    if d < t then r.insert?
    else
      let weight := r.weight * (36 - t)
      if weight < bound then some { r with weight, place := r.place + 36 } else none
  else none

def readDigits : Reading → List Char → Option (List Char)
  | r, [] => if r.place = 36 then some r.text else none
  | r, c :: rest => do readDigits (← r.next? c) rest

/-- The position of the last hyphen, unless it stands first. -/
def splitBasic (s : List Char) : List Char × List Char :=
  let extended := (s.reverse.takeWhile (· != '-')).reverse
  let basic := s.take (s.length - extended.length - 1)
  if basic.isEmpty then ([], s) else (basic, extended)

def decode? (s : List Char) : Option (List Char) :=
  let (basic, extended) := splitBasic s
  if allAscii basic then readDigits ⟨basic, 128, 0, 72, 0, 1, 36⟩ extended else none

/-- The digits of `n`, the lowest first. -/
def writeNumber (n place bias : Nat) : List Char :=
  let t := threshold place bias
  if h : n < t then [digit n]
  else digit (t + (n - t) % (36 - t)) :: writeNumber ((n - t) / (36 - t)) (place + 36) bias
termination_by n
decreasing_by
  have : 1 ≤ t := by simp only [t, threshold]; split <;> (try split) <;> omega
  have : t ≤ 26 := by simp only [t, threshold]; split <;> (try split) <;> omega
  exact Nat.lt_of_le_of_lt (Nat.div_le_self _ _) (by omega)

/-- Where encoding stands: the digits so far, the steps since the latest insertion, the
bias, and how many characters are written. -/
structure Writing where
  digits : List Char
  delta : Nat
  bias : Nat
  count : Nat

def Writing.pass (basicCount code : Nat) (w : Writing) (c : Char) : Writing :=
  if c.toNat < code then { w with delta := w.delta + 1 }
  else if c.toNat = code then
    { digits := w.digits ++ writeNumber w.delta 36 w.bias
      delta := 0
      bias := adapt w.delta (w.count + 1) (w.count == basicCount)
      count := w.count + 1 }
  else w

/-- Writes the insertions of each of `codes`, which ascend; `last` is the one before. -/
def writeCodes (text : List Char) (basicCount : Nat) : (last : Nat) → List Nat → Writing → Writing
  | _, [], w => w
  | last, code :: rest, w =>
      let w := { w with delta := w.delta + (code - last) * (w.count + 1) }
      let w := text.foldl (Writing.pass basicCount code) w
      writeCodes text basicCount (code + 1) rest { w with delta := w.delta + 1 }

def insertCode (n : Nat) : List Nat → List Nat
  | [] => [n]
  | m :: rest => if n < m then n :: m :: rest else if n = m then m :: rest else m :: insertCode n rest

def extendedCodes (text : List Char) : List Nat :=
  (text.filter (!isAscii ·)).foldl (fun codes c => insertCode c.toNat codes) []

def encode (text : List Char) : List Char :=
  let basic := text.filter isAscii
  let delimiter := if basic.isEmpty then [] else ['-']
  let w := writeCodes text basic.length 128 (extendedCodes text) ⟨[], 0, 72, basic.length⟩
  basic ++ delimiter ++ w.digits

end SenderAudit.Idna.Punycode
