import SenderAudit.Text.Fields

/-!
Lists of tags: parts between semicolons, each a key, an equals sign and a value. Keys
have no case, blanks around keys and values do not count, and of several tags with one
key the last one counts.
-/
namespace SenderAudit.Text

structure Tag where
  key : List Char
  value : List Char
  deriving DecidableEq, Repr

/-- The tags of a text in order. A part without an equals sign is a key with an empty
value if `bareKeys` says so, else no tag. -/
def tags (bareKeys : Bool) (s : List Char) : List Tag :=
  ((fields ';' s).map trim).filterMap fun part =>
    match cut '=' part with
    | some (key, value) => some ⟨lower (trim key), trim value⟩
    | none => if bareKeys && !part.isEmpty then some ⟨lower part, []⟩ else none

def lastValue? (key : String) (ts : List Tag) : Option (List Char) :=
  (ts.reverse.find? (·.key == key.toList)).map (·.value)

end SenderAudit.Text
