import SenderAudit.DomainName
import SenderAudit.Proofs.NetworkCase

/-!
Names have no case: a text denotes the same name as its lower case. For names in ASCII that is so
because they are lowered; for others, because the mapping of international names lowers the
letters of ASCII as well.
-/
namespace SenderAudit

namespace Text

theorem dropTail_lower {p : Char → Bool} (caseless : Caseless p) (s : List Char) :
    dropTail p (lower s) = lower (dropTail p s) := by
  have turned : (lower s).reverse = lower s.reverse := List.map_reverse.symm
  rw [dropTail, dropTail, turned, dropWhile_lower caseless]
  exact List.map_reverse.symm

theorem trim_lower (s : List Char) : trim (lower s) = lower (trim s) := by
  rw [trim, trim, trimStart, trimStart, dropWhile_lower isBlank_caseless]
  exact dropTail_lower isBlank_caseless _

end Text

namespace Idna

open Text (lower)

/-- What stands in the mapped name for a character, unless that is disallowed. -/
def image? (c : Char) : Option (List Char) :=
  match fate c with
  | .valid => some [c]
  | .ignored => some []
  | .disallowed => none
  | .replaced cs => some cs

theorem mapped?_cons (c : Char) (rest : List Char) :
    mapped? (c :: rest) = (mapped? rest).bind fun tail => (image? c).map (· ++ tail) := by
  rw [mapped?, image?]
  cases mapped? rest with
  | none => rfl
  | some tail => cases fate c <;> rfl

theorem image?_toLower (c : Char) : image? c.toLower = image? c := by
  by_cases small : c.toNat < 128
  · rcases Text.of_table (P := fun c => c.toLower = c ∨ image? c.toLower = image? c)
      (by decide +kernel) c small with same | mapped
    · rw [same]
    · exact mapped
  · rw [Text.toLower_of_large c small]

theorem mapped?_lower (s : List Char) : mapped? (lower s) = mapped? s := by
  induction s with
  | nil => rfl
  | cons c rest ih =>
      change mapped? (c.toLower :: lower rest) = _
      rw [mapped?_cons, mapped?_cons, ih, image?_toLower]

theorem toAscii?_lower (s : List Char) : toAscii? (lower s) = toAscii? s := by
  rw [toAscii?, toAscii?, labels?, labels?, mapped?_lower]

theorem isAscii_caseless : Text.Caseless isAscii :=
  Text.caseless_of_table (by decide)

end Idna

namespace DomainName

open Text (lower)

theorem dropFinalDot_lower (s : List Char) : dropFinalDot (lower s) = lower (dropFinalDot s) := by
  have last : (lower s).getLast? = some '.' ↔ s.getLast? = some '.' := by
    rw [lower, List.getLast?_map, Option.map_eq_some_iff]
    simp only [Text.toLower_eq_sign_iff '.' (by decide), exists_eq_right]
  rw [dropFinalDot, dropFinalDot]
  by_cases dot : s.getLast? = some '.'
  · rw [if_pos dot, if_pos (last.mpr dot), lower, lower, List.map_dropLast]
  · rw [if_neg dot, if_neg (mt last.mp dot)]

theorem ascii?_lower (s : List Char) : ascii? (lower s) = ascii? s := by
  rw [ascii?, ascii?, Text.lower_lower, Idna.toAscii?_lower, Idna.allAscii, Idna.allAscii,
    Text.all_lower Idna.isAscii_caseless]

theorem parse_lowered (input : String) : parse (Text.lowered input) = parse input := by
  have sameCore : core (Text.lowered input) = lower (core input) := by
    rw [core, core, Text.lowered, String.toList_ofList, Text.trim_lower, dropFinalDot_lower]
  have empty : lower (core input) = [] ↔ core input = [] := List.map_eq_nil_iff
  rw [parse, parse, sameCore, ascii?_lower]
  simp only [empty]

end DomainName

end SenderAudit
