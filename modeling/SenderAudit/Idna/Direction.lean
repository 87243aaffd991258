import SenderAudit.Idna.DirectionTable

/-!
The rule of right-to-left names: once a name holds a character written from right to left,
each of its labels must read unambiguously in one direction.
-/
namespace SenderAudit.Idna

def directionRanges : List (Direction × List Range) :=
  directionTable.map fun (d, codes) => (d, ranges codes)

def direction (c : Char) : Direction :=
  ((directionRanges.find? fun (_, rs) => covered rs c).map (·.1)).getD .left

def Direction.isRightToLeft : Direction → Bool
  | .right | .arabic | .arabicNumber => true
  | _ => false

def isRightToLeft (s : List Char) : Bool :=
  s.any fun c => !isAscii c && (direction c).isRightToLeft

def Direction.isNeutral : Direction → Bool
  | .europeanNumber | .europeanSeparator | .commonSeparator | .europeanTerminator
  | .neutral | .boundary | .mark => true
  | _ => false

/-- Whether a label may stand in a name to which the rule applies. A label runs from left
to right or from right to left as its first character does; it holds no character of the
other kind, ends in a letter or number, marks aside, and has numbers of one sort. -/
def readsOneWay (label : List Char) : Bool :=
  match label.map direction with
  | [] => true
  | head :: tail =>
      let body := (tail.reverse.dropWhile (· == .mark)).reverse
      let numbersAgree := !(body.contains .europeanNumber && body.contains .arabicNumber)
      match head with
      | .left =>
          body.all (fun d => d == .left || d.isNeutral) &&
            body.getLast?.all fun d => d == .left || d == .europeanNumber
      | .right | .arabic =>
          body.all (fun d => d.isRightToLeft || d.isNeutral) && numbersAgree &&
            body.getLast?.all fun d => d.isRightToLeft || d == .europeanNumber
      | _ => false

end SenderAudit.Idna
