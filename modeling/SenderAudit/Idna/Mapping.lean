import SenderAudit.Idna.MappingRows

/-!
The mapping of a name's characters before it is cut into labels: letters lose their case,
compatibility forms their form, and invisible characters vanish.
-/
namespace SenderAudit.Idna

inductive Fate where
  | valid
  | ignored
  | disallowed
  | replaced (image : List Char)
  deriving DecidableEq, Repr

/-- What an entry says of the code point at `offset`, if it speaks of it. -/
def entryFate (offset : Nat) (entry : List Char) : Option Fate :=
  let range := Range.read (entry.takeWhile fun c => c.isAlphanum || c == '-')
  if range.has offset then
    match entry.dropWhile fun c => c.isAlphanum || c == '-' with
    | '!' :: _ => some .disallowed
    | '.' :: _ => some .ignored
    | '=' :: codes =>
        some (.replaced ((Text.fields ',' codes).map fun code => Char.ofNat (Text.hexValue code)))
    | ':' :: code => some (.replaced [Char.ofNat (Text.hexValue code + (offset - range.first))])
    | '/' :: code =>
        if (offset - range.first) % 2 = 0 then
          some (.replaced [Char.ofNat (Text.hexValue code + (offset - range.first))])
        else none
    | _ => none
  else none

def fate (c : Char) : Fate :=
  let page := c.toNat / 256
  match mappingRows.find? fun row => row.first ≤ page && page ≤ row.last with
  | none => .valid
  | some row =>
      ((Text.words row.entries.toList).findSome? (entryFate (c.toNat % 256))).getD .valid

def mapped? : List Char → Option (List Char)
  | [] => some []
  | c :: rest => do
      let tail ← mapped? rest
      match fate c with
      | .valid => some (c :: tail)
      | .ignored => some tail
      | .disallowed => none
      | .replaced cs => some (cs ++ tail)

end SenderAudit.Idna
