import SenderAudit.Json.Token
import SenderAudit.Text.Utf8

/-!
Reading JSON values from tokens. What is open around the place reached is held as a list
of frames, the innermost one first, so that values may be nested to any depth.
-/
namespace SenderAudit.Json

/-- A value as it is written: words, and strings with their escapes. -/
inductive Tree where
  | word (letters : List Char)
  | text (octets : List UInt8)
  | array (values : List Tree)
  | object (fields : List (List UInt8 × Tree))
  deriving Repr

/-- An array or an object that holds the place reached, with what stands before it there,
last first. -/
inductive Frame where
  | element (before : List Tree)
  | field (before : List (List UInt8 × Tree)) (key : List UInt8)

/-- What comes next: a value or, if one may be closed at once, the end of an array; a key
or the end of an object; a colon; or what follows a value. -/
inductive Reading where
  | value (mayClose : Bool) (frames : List Frame)
  | key (mayClose : Bool) (before : List (List UInt8 × Tree)) (frames : List Frame)
  | colon (before : List (List UInt8 × Tree)) (key : List UInt8) (frames : List Frame)
  | after (tree : Tree) (frames : List Frame)

namespace Reading

def next? : Reading → Token → Option Reading
  | .value _ frames, .word letters =>
      if isWord letters then some (.after (.word letters) frames) else none
  | .value _ frames, .text octets => some (.after (.text octets) frames)
  | .value _ frames, .openArray => some (.value true (.element [] :: frames))
  | .value _ frames, .openObject => some (.key true [] frames)
  | .value true (.element _ :: frames), .closeArray => some (.after (.array []) frames)
  | .key _ before frames, .text k => some (.colon before k frames)
  | .key true _ frames, .closeObject => some (.after (.object []) frames)
  | .colon before k frames, .colon => some (.value false (.field before k :: frames))
  | .after tree (.element before :: frames), .comma =>
      some (.value false (.element (tree :: before) :: frames))
  | .after tree (.element before :: frames), .closeArray =>
      some (.after (.array (tree :: before).reverse) frames)
  | .after tree (.field before k :: frames), .comma =>
      some (.key false ((k, tree) :: before) frames)
  | .after tree (.field before k :: frames), .closeObject =>
      some (.after (.object ((k, tree) :: before).reverse) frames)
  | _, _ => none

def run : Reading → List Token → Option Reading
  | reading, [] => some reading
  | reading, token :: rest =>
      match reading.next? token with
      | none => none
      | some reading => run reading rest

def result? : Reading → Option Tree
  | .after tree [] => some tree
  | _ => none

end Reading

def read? (octets : List UInt8) : Option Tree := do
  let tokens ← tokens? octets
  let reading ← Reading.run (.value false []) tokens
  reading.result?

def hexValue (octets : List UInt8) : Nat :=
  Text.hexValue (octets.map fun octet => Char.ofNat octet.toNat)

def escapeValue (letter : UInt8) : UInt8 :=
  match Char.ofNat letter.toNat with
  | 'b' => 0x08
  | 'f' => 0x0C
  | 'n' => 0x0A
  | 'r' => 0x0D
  | 't' => 0x09
  | _ => letter

def isHighSurrogate (n : Nat) : Bool :=
  0xD800 ≤ n && n ≤ 0xDBFF

def isLowSurrogate (n : Nat) : Bool :=
  0xDC00 ≤ n && n ≤ 0xDFFF

def ofSurrogates (high low : Nat) : Char :=
  Char.ofNat ((high - 0xD800) * 0x400 + (low - 0xDC00) + 0x10000)

/-- A string's octets with its escapes carried out. Surrogates must come in pairs. -/
def unescaped? : List UInt8 → Option (List UInt8)
  | [] => some []
  | 0x5C :: 0x75 :: a :: b :: c :: d :: rest =>
      let n := hexValue [a, b, c, d]
      if isLowSurrogate n then none
      else if isHighSurrogate n then
        match rest with
        | 0x5C :: 0x75 :: a :: b :: c :: d :: rest =>
            let low := hexValue [a, b, c, d]
            if isLowSurrogate low then
              (unescaped? rest).map (String.utf8EncodeChar (ofSurrogates n low) ++ ·)
            else none
        | _ => none
      else (unescaped? rest).map (String.utf8EncodeChar (Char.ofNat n) ++ ·)
  | 0x5C :: letter :: rest => (unescaped? rest).map (escapeValue letter :: ·)
  | octet :: rest => (unescaped? rest).map (octet :: ·)

def characters? (octets : List UInt8) : Option String := do
  let octets ← unescaped? octets
  let s ← Utf8.decode? octets
  some (String.ofList s)

namespace Tree

def text? : Tree → Option String
  | .text octets => characters? octets
  | _ => none

def natural? (limit : Nat) : Tree → Option Nat
  | .word letters =>
      if isWhole letters && Text.digitsValue letters ≤ limit then
        some (Text.digitsValue letters)
      else none
  | _ => none

/-- The value of a field: nothing in it if there is no such field, and none at all if
there are several. -/
def field? (fields : List (String × Tree)) (key : String) : Option (Option Tree) :=
  match fields.filter (·.1 == key) with
  | [] => some none
  | [(_, value)] => some (some value)
  | _ => none

/-- The parts of a structure whose fields are named `keys`. It is an object, whose other
fields do not count, or an array of the values in the order of the keys, from which the
last ones may be missing. -/
def parts? (keys : List String) : Tree → Option (List (Option Tree))
  | .object fields => do
      let fields ← fields.mapM fun (key, value) => (characters? key).map (·, value)
      keys.mapM (field? fields)
  | .array values =>
      if values.length ≤ keys.length then
        some (values.map some ++ List.replicate (keys.length - values.length) none)
      else none
  | _ => none

end Tree

end SenderAudit.Json
