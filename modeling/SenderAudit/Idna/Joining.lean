import SenderAudit.Idna.JoiningTable
import SenderAudit.Idna.Normalization

/-!
Where combining marks and the two invisible joiners may stand in a label.
-/
namespace SenderAudit.Idna

def markRanges : List Range := ranges markCodes
def joinsOnRight : List Range := ranges dualJoining ++ ranges leftJoining
def joinsOnLeft : List Range := ranges dualJoining ++ ranges rightJoining
def transparent : List Range := ranges transparentCodes

def isMark (c : Char) : Bool :=
  covered markRanges c

/-- The sign that kills a vowel has combining class nine. -/
def isVirama (c : Char) : Bool :=
  combiningClass c == 9

def joinsThrough (letters : List Range) (s : List Char) : Bool :=
  match s.dropWhile (covered transparent) with
  | [] => false
  | c :: _ => covered letters c

/-- `before` holds the characters that precede, the last one first. A joiner follows a
virama; a non-joiner may also stand between two letters that would join. -/
def joinersFit : (before : List Char) → List Char → Bool
  | _, [] => true
  | before, c :: rest =>
      let afterVirama := before.head?.any isVirama
      let fits :=
        if c == '\u200D' then afterVirama
        else if c == '\u200C' then
          afterVirama ||
            (joinsThrough joinsOnRight before && joinsThrough joinsOnLeft rest)
        else true
      fits && joinersFit (c :: before) rest

def isWellPlaced (label : List Char) : Bool :=
  !label.head?.any isMark && joinersFit [] label

end SenderAudit.Idna
