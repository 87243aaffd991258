import SenderAudit.Proofs.Text
import SenderAudit.Spf.Term

/-!
The written forms of terms. What a term states is given here by how it is put together, and
reading a term finds just that.
-/
namespace SenderAudit.Spf

def IsModifierName (name : List Char) : Prop :=
  ∃ letter rest, name = letter :: rest ∧ letter.isAlpha = true ∧
    ∀ c ∈ rest, c.isAlphanum = true ∨ c = '-' ∨ c = '_' ∨ c = '.'

/-- A term is a modifier if what stands before its first equals sign is a modifier's name. -/
def IsModifier (term name value : List Char) : Prop :=
  term = name ++ '=' :: value ∧ '=' ∉ name ∧ IsModifierName name

/-- The name and the value of a mechanism without its qualifier: they are parted by the first
colon. Without a colon there is no value, and the name ends before the first slash. -/
inductive NamesMechanism : List Char → List Char → Option (List Char) → Prop
  | valued {name value : List Char} (first : ':' ∉ name) :
      NamesMechanism (name ++ ':' :: value) name (some value)
  | sized {name length : List Char} (noColon : ':' ∉ name ++ '/' :: length)
      (first : '/' ∉ name) : NamesMechanism (name ++ '/' :: length) name none
  | bare {name : List Char} (noColon : ':' ∉ name) (noSlash : '/' ∉ name) :
      NamesMechanism name name none

/-- What a written term states. Names have no case, and a mechanism may have any signs
before it. -/
inductive States : List Char → Term → Prop
  | modifier {term name value : List Char} (isModifier : IsModifier term name value) :
      States term (.modifier (Text.lower name) value)
  | mechanism {term signs body name : List Char} {value : Option (List Char)}
      (noModifier : ∀ name value, ¬ IsModifier term name value) (split : term = signs ++ body)
      (onlySigns : ∀ sign ∈ signs, sign ∈ ['+', '-', '~', '?'])
      (allSigns : ∀ c, body.head? = some c → c ∉ ['+', '-', '~', '?'])
      (names : NamesMechanism body name value) :
      States term (.mechanism (Text.lower name) value)

theorem isModifierName_iff (name : List Char) :
    isModifierName name = true ↔ IsModifierName name := by
  cases name with
  | nil => simp [isModifierName, IsModifierName]
  | cons letter rest =>
      simp only [isModifierName, IsModifierName, Bool.and_eq_true, List.all_eq_true,
        Bool.or_eq_true, beq_iff_eq, or_assoc]
      constructor
      · rintro ⟨isLetter, others⟩
        exact ⟨letter, rest, rfl, isLetter, others⟩
      · rintro ⟨_, _, ⟨⟩, isLetter, others⟩
        exact ⟨isLetter, others⟩

theorem modifier?_of_isModifier (term name value : List Char)
    (isModifier : IsModifier term name value) :
    modifier? term = some (Text.lower name, value) := by
  obtain ⟨rfl, first, named⟩ := isModifier
  rw [modifier?, Text.cut_append '=' name value first]
  exact if_pos ((isModifierName_iff name).mpr named)

theorem modifier?_cases (term : List Char) :
    (∃ name value, IsModifier term name value) ∨
      ((∀ name value, ¬ IsModifier term name value) ∧ modifier? term = none) := by
  cases found : modifier? term with
  | none =>
      refine Or.inr ⟨?_, rfl⟩
      intro name value isModifier
      rw [modifier?_of_isModifier term name value isModifier] at found
      cases found
  | some parts =>
      rw [modifier?] at found
      rcases Text.cut_cases '=' term with ⟨name, value, split, first, cut⟩ | ⟨_, uncut⟩
      · rw [cut] at found
        dsimp only at found
        split at found
        · rename_i named
          exact Or.inl ⟨name, value, split, first, (isModifierName_iff name).mp named⟩
        · cases found
      · rw [uncut] at found
        cases found

theorem mechanismParts_of_names (term name : List Char) (value : Option (List Char))
    (names : NamesMechanism (term.dropWhile isQualifierSign) name value) :
    mechanismParts term = (Text.lower name, value) := by
  rw [mechanismParts]
  generalize term.dropWhile isQualifierSign = body at names
  cases names with
  | valued first => rw [Text.cut_append ':' _ _ first]
  | sized noColon first => rw [Text.cut_eq_none ':' _ noColon, Text.cut_append '/' _ _ first]
  | bare noColon noSlash => rw [Text.cut_eq_none ':' _ noColon, Text.cut_eq_none '/' _ noSlash]

theorem names_exist (body : List Char) : ∃ name value, NamesMechanism body name value := by
  rcases Text.cut_cases ':' body with ⟨name, value, rfl, first, _⟩ | ⟨noColon, _⟩
  · exact ⟨name, some value, .valued first⟩
  · rcases Text.cut_cases '/' body with ⟨name, length, rfl, first, _⟩ | ⟨noSlash, _⟩
    · exact ⟨name, none, .sized noColon first⟩
    · exact ⟨body, none, .bare noColon noSlash⟩

theorem isQualifierSign_iff (c : Char) :
    isQualifierSign c = true ↔ c ∈ ['+', '-', '~', '?'] := by
  simp [isQualifierSign, or_assoc]

/-- Nothing but signs stands before the body, and no sign at its head. -/
theorem dropWhile_signs (signs body : List Char)
    (onlySigns : ∀ sign ∈ signs, sign ∈ ['+', '-', '~', '?'])
    (allSigns : ∀ c, body.head? = some c → c ∉ ['+', '-', '~', '?']) :
    (signs ++ body).dropWhile isQualifierSign = body := by
  rw [List.dropWhile_append_of_pos fun sign member =>
    (isQualifierSign_iff sign).mpr (onlySigns sign member)]
  cases body with
  | nil => rfl
  | cons c rest =>
      exact List.dropWhile_cons_of_neg (mt (isQualifierSign_iff c).mp (allSigns c rfl))

theorem read_iff (term : List Char) (t : Term) : Term.read term = t ↔ States term t := by
  constructor
  · rintro rfl
    rcases modifier?_cases term with ⟨name, value, isModifier⟩ | ⟨noModifier, found⟩
    · rw [Term.read, modifier?_of_isModifier term name value isModifier]
      exact .modifier isModifier
    · obtain ⟨name, value, names⟩ := names_exist (term.dropWhile isQualifierSign)
      rw [Term.read, found, mechanismParts_of_names term name value names]
      refine .mechanism noModifier (List.takeWhile_append_dropWhile).symm ?_ ?_ names
      · intro sign member
        exact (isQualifierSign_iff sign).mp (List.mem_takeWhile_imp member)
      · intro c isHead
        have stops := List.head?_dropWhile_not isQualifierSign term
        rw [isHead] at stops
        exact mt (isQualifierSign_iff c).mpr (Bool.eq_false_iff.mp stops)
  · intro states
    cases states with
    | modifier isModifier => rw [Term.read, modifier?_of_isModifier term _ _ isModifier]
    | @mechanism signs body name value noModifier split onlySigns allSigns names =>
        rcases modifier?_cases term with ⟨name, value, isModifier⟩ | ⟨_, found⟩
        · exact absurd isModifier (noModifier name value)
        · rw [← dropWhile_signs signs body onlySigns allSigns, ← split] at names
          rw [Term.read, found, mechanismParts_of_names term name value names]

-- Signs come off first, a colon parts before a slash, and no modifier's name has a sign.
example : Term.read "~+A/24:x=y".toList = .mechanism "a/24".toList (some "x=y".toList) := by
  decide

theorem States.unique {term : List Char} {first second : Term} (states : States term first)
    (other : States term second) : first = second :=
  ((read_iff term first).mpr states).symm.trans ((read_iff term second).mpr other)

end SenderAudit.Spf
