import SenderAudit.Idna.ToAscii
import SenderAudit.Text.Utf8

/-!
Domain names in canonical form: at most 253 characters in labels of 1 to 63, each of
lower-case letters, digits, hyphens and underscores, with no hyphen at either end.
Reading a name cleans it (blanks around it and one final dot go, ASCII letters lose their
case, other characters are written in ASCII) and then tests the form.
-/
namespace SenderAudit

inductive DomainName.Fault where
  | empty
  | notAscii
  | tooLong (length : Nat)
  | emptyLabel
  | longLabel (label : String) (length : Nat)
  | hyphenAtEnd (label : String)
  | badCharacter (label : String)
  deriving DecidableEq, Repr

namespace DomainName

def maxLength : Nat := 253
def maxLabelLength : Nat := 63

def Fault.message : Fault → String
  | .empty => "name is empty"
  | .notAscii => "IDNA conversion failed"
  | .tooLong length => s!"length {length} > {maxLength}"
  | .emptyLabel => "empty label"
  | .longLabel label length => s!"label '{label}' length {length} > {maxLabelLength}"
  | .hyphenAtEnd label => s!"label '{label}' cannot start/end with '-'"
  | .badCharacter label => s!"label '{label}' has invalid chars"

def isLabelChar (c : Char) : Bool :=
  c.isLower || c.isDigit || c == '-' || c == '_'

def IsLabel (label : List Char) : Prop :=
  label ≠ [] ∧ label.length ≤ maxLabelLength ∧
    label.head? ≠ some '-' ∧ label.getLast? ≠ some '-' ∧ ∀ c ∈ label, isLabelChar c = true

def IsCanonical (name : List Char) : Prop :=
  name.length ≤ maxLength ∧ ∀ label ∈ Text.fields '.' name, IsLabel label

def labelFault? (label : List Char) : Option Fault :=
  let text := String.ofList label
  if label = [] then some .emptyLabel
  else if label.length > maxLabelLength then some (.longLabel text label.length)
  else if label.head? = some '-' ∨ label.getLast? = some '-' then some (.hyphenAtEnd text)
  else if label.all isLabelChar then none
  else some (.badCharacter text)

/-- The first rule of form that a name breaks: its length comes before its labels. -/
def fault? (name : List Char) : Option Fault :=
  if name.length > maxLength then some (.tooLong name.length)
  else (Text.fields '.' name).findSome? labelFault?

theorem labelFault?_eq_none_iff {label : List Char} :
    labelFault? label = none ↔ IsLabel label := by
  unfold labelFault? IsLabel
  by_cases empty : label = []
  · simp [empty]
  · by_cases long : label.length > maxLabelLength
    · simp [empty, long, Nat.not_le.mpr long]
    · have short : label.length ≤ maxLabelLength := Nat.le_of_not_lt long
      by_cases hyphen : label.head? = some '-' ∨ label.getLast? = some '-'
      · simp only [empty, long, hyphen, ↓reduceIte, reduceCtorEq, false_iff]
        rintro ⟨_, _, head, last, _⟩
        exact hyphen.elim head last
      · have apart := not_or.mp hyphen
        simp [empty, short, apart.1, apart.2, Nat.not_lt.mpr short]

theorem fault?_eq_none_iff {name : List Char} : fault? name = none ↔ IsCanonical name := by
  unfold fault? IsCanonical
  by_cases long : name.length > maxLength
  · simp [long, Nat.not_le.mpr long]
  · have short : name.length ≤ maxLength := Nat.le_of_not_lt long
    simp [short, Nat.not_lt.mpr short, List.findSome?_eq_none_iff, labelFault?_eq_none_iff]

end DomainName

structure DomainName where
  text : String
  canonical : DomainName.IsCanonical text.toList

namespace DomainName

instance : DecidableEq DomainName := fun a b =>
  if h : a.text = b.text then
    isTrue (by cases a; cases b; cases h; rfl)
  else isFalse fun same => h (congrArg text same)

instance : Repr DomainName := ⟨fun name _ => repr name.text⟩

instance : ToString DomainName := ⟨text⟩

def dropFinalDot (s : List Char) : List Char :=
  if s.getLast? = some '.' then s.dropLast else s

/-- The part of a text that is read as a name. -/
def core (input : String) : List Char :=
  dropFinalDot (Text.trim input.toList)

/-- A text spelled in lower-case ASCII, as far as it has ASCII letters. -/
def spelling (input : String) : String :=
  String.ofList (Text.lower (core input))

def ascii? (s : List Char) : Option (List Char) :=
  if Idna.allAscii s then some (Text.lower s) else Idna.toAscii? s

def ofCanonical (s : List Char) : Except Fault DomainName :=
  match found : fault? s with
  | some fault => .error fault
  | none => .ok ⟨String.ofList s, by
      rw [String.toList_ofList]; exact fault?_eq_none_iff.mp found⟩

def parse (input : String) : Except Fault DomainName :=
  let s := core input
  if s = [] then .error .empty
  else match ascii? s with
    | none => .error .notAscii
    | some ascii => ofCanonical ascii

/-- What is parsed for the name of `label` under `name`; dots that end the label go. -/
def childText (name : DomainName) (label : String) : String :=
  String.ofList (Text.dropTail (· == '.') label.toList ++ '.' :: name.text.toList)

def child (name : DomainName) (label : String) : Except Fault DomainName :=
  parse (name.childText label)

end DomainName

end SenderAudit
