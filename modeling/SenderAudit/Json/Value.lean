import SenderAudit.Text.Hexadecimal

/-!
JSON values and how they are written: on one line without blanks, or with each element
and each field on a line of its own, two blanks deeper than what holds it.
-/
namespace SenderAudit

inductive Json where
  | null
  | bool (value : Bool)
  | number (value : Int)
  | text (value : String)
  | array (values : List Json)
  | object (fields : List (String × Json))

namespace Json

def ofTexts (texts : List String) : Json :=
  .array (texts.map .text)

def ofOption (form : α → Json) : Option α → Json
  | none => .null
  | some value => form value

def ofNat (n : Nat) : Json :=
  .number n

inductive Layout where
  | compact
  | indented
  deriving DecidableEq, Repr

namespace Layout

/-- What separates the brackets of a value at `depth` from its parts. -/
def gap : Layout → (depth : Nat) → String
  | .compact, _ => ""
  | .indented, depth => "\n" ++ String.ofList (List.replicate (2 * depth) ' ')

def colon : Layout → String
  | .compact => ":"
  | .indented => ": "

end Layout

/-- How a character is written between quotes. Only quotes, backslashes and control
characters need an escape. -/
def escaped (c : Char) : List Char :=
  match c with
  | '"' => ['\\', '"']
  | '\\' => ['\\', '\\']
  | '\n' => ['\\', 'n']
  | '\r' => ['\\', 'r']
  | '\t' => ['\\', 't']
  | '\x08' => ['\\', 'b']
  | '\x0c' => ['\\', 'f']
  | _ =>
      if c.toNat < 0x20 then
        ['\\', 'u', '0', '0', Text.lowerHexDigit (c.toNat / 16),
          Text.lowerHexDigit (c.toNat % 16)]
      else [c]

def quoted (s : String) : String :=
  "\"" ++ String.ofList (s.toList.flatMap escaped) ++ "\""

mutual

def write (layout : Layout) (depth : Nat) : Json → String
  | .null => "null"
  | .bool true => "true"
  | .bool false => "false"
  | .number value => toString value
  | .text value => quoted value
  | .array [] => "[]"
  | .array (value :: rest) =>
      let gap := layout.gap (depth + 1)
      "[" ++ gap ++ write layout (depth + 1) value ++
        writeValues layout gap (depth + 1) rest ++ layout.gap depth ++ "]"
  | .object [] => "\x7b\x7d"
  | .object ((key, value) :: rest) =>
      let gap := layout.gap (depth + 1)
      "\x7b" ++ gap ++ quoted key ++ layout.colon ++ write layout (depth + 1) value ++
        writeFields layout gap (depth + 1) rest ++ layout.gap depth ++ "\x7d"

def writeValues (layout : Layout) (gap : String) (depth : Nat) : List Json → String
  | [] => ""
  | value :: rest =>
      "," ++ gap ++ write layout depth value ++ writeValues layout gap depth rest

def writeFields (layout : Layout) (gap : String) (depth : Nat) : List (String × Json) → String
  | [] => ""
  | (key, value) :: rest =>
      "," ++ gap ++ quoted key ++ layout.colon ++ write layout depth value ++
        writeFields layout gap depth rest

end

def compact (value : Json) : String :=
  value.write .compact 0

def indented (value : Json) : String :=
  value.write .indented 0

end Json

end SenderAudit
