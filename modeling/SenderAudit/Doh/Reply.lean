import SenderAudit.Json.Tree

/-!
Replies of a server that answers queries in JSON: a status, and records with a type code
and data. Owners and lifetimes must be well formed but do not count.
-/
namespace SenderAudit.Doh

structure ResourceRecord where
  type : Nat
  data : String
  deriving DecidableEq, Repr

structure Reply where
  status : Nat
  answers : List ResourceRecord
  deriving DecidableEq, Repr

open Json in
/-- A record. Its owner and its lifetime may be missing. -/
def ResourceRecord.ofTree? (tree : Tree) : Option ResourceRecord :=
  match tree.parts? ["name", "type", "TTL", "data"] with
  | some [owner, some type, lifetime, some data] => do
      let type ← type.natural? (UInt16.size - 1)
      let data ← data.text?
      if owner.all (·.text?.isSome) &&
          lifetime.all (·.natural? (UInt32.size - 1) |>.isSome) then
        some ⟨type, data⟩
      else none
  | _ => none

open Json in
def recordsOfTree? : Option Tree → Option (List ResourceRecord)
  | none => some []
  | some (.array values) => values.mapM ResourceRecord.ofTree?
  | some _ => none

open Json in
def Reply.ofTree? (tree : Tree) : Option Reply :=
  match tree.parts? ["Status", "Answer"] with
  | some [some status, answers] => do
      let status ← status.natural? (UInt32.size - 1)
      let answers ← recordsOfTree? answers
      some ⟨status, answers⟩
  | _ => none

def Reply.read? (body : List UInt8) : Option Reply :=
  (Json.read? body).bind Reply.ofTree?

end SenderAudit.Doh
