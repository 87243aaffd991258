import SenderAudit.Text.Blank

/-!
Cutting text at separators. `splitWhere` keeps empty pieces, so it always yields at
least one; `words` drops them; `cut` looks at the first separator only.
-/
namespace SenderAudit.Text

/-- The pieces between the characters that satisfy `p`, empty ones included. -/
def splitWhere (p : Char → Bool) : List Char → List (List Char)
  | [] => [[]]
  | c :: rest =>
      if p c then [] :: splitWhere p rest
      else match splitWhere p rest with
        | [] => [[c]]
        | piece :: pieces => (c :: piece) :: pieces

def fields (sep : Char) (s : List Char) : List (List Char) :=
  splitWhere (· == sep) s

def words (s : List Char) : List (List Char) :=
  (splitWhere isBlank s).filter (!·.isEmpty)

/-- What stands before and after the first separator, if there is one. -/
def cut (sep : Char) (s : List Char) : Option (List Char × List Char) :=
  match s.dropWhile (· != sep) with
  | [] => none
  | _ :: rest => some (s.takeWhile (· != sep), rest)

/-- Only the twenty-six letters of ASCII have two cases. -/
def lower (s : List Char) : List Char :=
  s.map Char.toLower

def lowered (s : String) : String :=
  String.ofList (lower s.toList)

def sameLetters (s t : List Char) : Bool :=
  lower s == lower t

def joined (sep : String) (texts : List String) : String :=
  sep.intercalate texts

theorem splitWhere_ne_nil (p : Char → Bool) (s : List Char) : splitWhere p s ≠ [] := by
  cases s with
  | nil => simp [splitWhere]
  | cons c rest =>
      simp only [splitWhere]
      split
      · simp
      · split <;> simp

theorem splitWhere_cons_of_neg {p : Char → Bool} {c : Char} {rest : List Char}
    (h : p c = false) : ∃ piece pieces,
      splitWhere p rest = piece :: pieces ∧
        splitWhere p (c :: rest) = (c :: piece) :: pieces := by
  cases found : splitWhere p rest with
  | nil => exact absurd found (splitWhere_ne_nil p rest)
  | cons piece pieces => exact ⟨piece, pieces, rfl, by simp [splitWhere, h, found]⟩

end SenderAudit.Text
