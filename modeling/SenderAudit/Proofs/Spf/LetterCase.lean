import SenderAudit.Proofs.NameCase
import SenderAudit.Proofs.Spf.Versions

/-!
Records have no case. Reading a text in lower case gives what reading the text gives, in lower
case; and lower case changes nothing of a record but the values of modifiers without a meaning
here, since everything else that a record keeps has no case to begin with, or has lost it.
-/
namespace SenderAudit

namespace Text

theorem splitWhere_lower {p : Char → Bool} (caseless : Caseless p) (s : List Char) :
    splitWhere p (lower s) = (splitWhere p s).map lower := by
  induction s with
  | nil => rfl
  | cons c rest ih =>
      change splitWhere p (c.toLower :: lower rest) = _
      rw [splitWhere, splitWhere, caseless, ih]
      by_cases cuts : p c = true
      · rw [if_pos cuts, if_pos cuts]
        rfl
      · rw [if_neg cuts, if_neg cuts]
        cases splitWhere p rest <;> rfl

theorem words_lower (s : List Char) : words (lower s) = (words s).map lower := by
  have keeps : (fun piece => !(lower piece).isEmpty) = fun piece => !piece.isEmpty := by
    funext piece
    rw [lower_isEmpty]
  rw [words, words, splitWhere_lower isBlank_caseless, List.filter_map]
  exact congrArg (List.map lower) (congrArg (List.filter · _) keeps)

theorem sameLetters_lower (s t : List Char) : sameLetters (lower s) t = sameLetters s t := by
  rw [sameLetters, lower_lower, sameLetters]

theorem lowered_ofList (s : List Char) : lowered (String.ofList s) = String.ofList (lower s) := by
  rw [lowered, String.toList_ofList]

theorem lowered_lowered (s : String) : lowered (lowered s) = lowered s := by
  rw [lowered, lowered, String.toList_ofList, lower_lower]

theorem equals_caseless : Caseless (· != '=') :=
  caseless_of_table (by decide)

theorem colon_caseless : Caseless (· != ':') :=
  caseless_of_table (by decide)

end Text

namespace Spf

open Text (lower)

/-! The terms. -/

theorem isModifierName_lower (name : List Char) :
    isModifierName (lower name) = isModifierName name := by
  cases name with
  | nil => rfl
  | cons c rest =>
      have isAlpha : Text.Caseless Char.isAlpha := Text.caseless_of_table (by decide)
      have isLater : Text.Caseless fun c => c.isAlphanum || c == '-' || c == '_' || c == '.' :=
        Text.caseless_of_table (by decide)
      change (c.toLower.isAlpha && (lower rest).all _) = _
      rw [isAlpha, Text.all_lower isLater, isModifierName]

def Term.lowered : Term → Term
  | .modifier name value => .modifier name (lower value)
  | .mechanism name value => .mechanism name (value.map lower)

theorem modifier?_lower (term : List Char) :
    modifier? (lower term) = (modifier? term).map (Prod.map id lower) := by
  rw [modifier?, modifier?, Text.cut_lower Text.equals_caseless]
  cases Text.cut '=' term with
  | none => rfl
  | some parts =>
      simp only [Option.map_some, Prod.map, isModifierName_lower, Text.lower_lower]
      split <;> rfl

theorem mechanismParts_lower (term : List Char) :
    mechanismParts (lower term) =
      ((mechanismParts term).1, (mechanismParts term).2.map lower) := by
  have isSign : Text.Caseless isQualifierSign := Text.caseless_of_table (by decide)
  rw [mechanismParts, mechanismParts, Text.dropWhile_lower isSign,
    Text.cut_lower Text.colon_caseless, Text.cut_lower Text.notSlash_caseless]
  generalize term.dropWhile isQualifierSign = body
  cases Text.cut ':' body with
  | some parts => simp [Prod.map, Text.lower_lower]
  | none => cases Text.cut '/' body <;> simp [Prod.map, Text.lower_lower]

theorem Term.read_lowered (term : List Char) :
    Term.read (lower term) = (Term.read term).lowered := by
  rw [Term.read, Term.read, modifier?_lower, mechanismParts_lower]
  cases modifier? term <;> rfl

/-! What is said of a text, with the texts that are cited in lower case. The name of a modifier
is in lower case already. -/

def ParseError.lowered : ParseError → ParseError
  | .invalidVersion found => .invalidVersion (Text.lowered found)
  | .unknownMechanism term => .unknownMechanism (Text.lowered term)
  | .missingValue term => .missingValue (Text.lowered term)
  | .duplicateModifier name => .duplicateModifier name

def Warning.lowered : Warning → Warning
  | .badRedirect value => .badRedirect (Text.lowered value)
  | .badExp value => .badExp (Text.lowered value)
  | .extraAll term => .extraAll (Text.lowered term)
  | .unqualifiedAll term => .unqualifiedAll (Text.lowered term)
  | .badNetwork m value => .badNetwork m (Text.lowered value)
  | .badTarget m value => .badTarget m (Text.lowered value)
  | w => w

def loweredModifiers (modifiers : List (String × String)) : List (String × String) :=
  modifiers.map fun (name, value) => (name, Text.lowered value)

def Record.lowered (r : Record) : Record :=
  { r with modifiers := loweredModifiers r.modifiers }

def Draft.lowered (d : Draft) : Draft :=
  { d with record := d.record.lowered, warnings := d.warnings.map Warning.lowered }

def loweredResult {α : Type} (lowered : α → α) : Except ParseError α → Except ParseError α
  | .ok result => .ok (lowered result)
  | .error error => .error error.lowered

/-! One term of a text in lower case does to a draft in lower case what the term does. -/

theorem warn_lowered (d : Draft) (w : Warning) :
    d.lowered.warn w.lowered = (d.warn w).lowered := by
  simp [Draft.warn, Draft.lowered]

theorem addTarget_lowered (d : Draft) (target : String) (add : Record → DomainName → Record)
    (otherwise : Warning) (keeps : ∀ r name, add r.lowered name = (add r name).lowered) :
    d.lowered.addTarget (Text.lowered target) add otherwise.lowered =
      (d.addTarget target add otherwise).lowered := by
  rw [Draft.addTarget, Draft.addTarget, DomainName.parse_lowered]
  cases DomainName.parse target with
  | ok name => exact congrArg (fun record => { d.lowered with record }) (keeps d.record name)
  | error fault => exact warn_lowered d otherwise

theorem setModifier_lowered (name value : String) (modifiers : List (String × String)) :
    setModifier name (Text.lowered value) (loweredModifiers modifiers) =
      loweredModifiers (setModifier name value modifiers) := by
  induction modifiers with
  | nil => rfl
  | cons entry rest ih =>
      obtain ⟨other, old⟩ := entry
      change setModifier name (Text.lowered value)
        ((other, Text.lowered old) :: loweredModifiers rest) = _
      rw [setModifier, setModifier, ih]
      split
      · rfl
      · split <;> rfl

theorem takeModifier_lowered (d : Draft) (name value : List Char) :
    takeModifier d.lowered name (lower value) =
      loweredResult Draft.lowered (takeModifier d name value) := by
  simp only [takeModifier, ← Text.lowered_ofList]
  generalize String.ofList value = text
  by_cases isRedirect : name = "redirect".toList
  · rw [if_pos isRedirect, if_pos isRedirect]
    cases seen : d.redirectSeen with
    | true => simp [Draft.lowered, seen, loweredResult, ParseError.lowered]
    | false =>
        have fresh : d.lowered.redirectSeen = false := seen
        rw [fresh]
        exact congrArg Except.ok (addTarget_lowered { d with redirectSeen := true } text _
          (.badRedirect text) fun _ _ => rfl)
  · rw [if_neg isRedirect, if_neg isRedirect]
    by_cases isExp : name = "exp".toList
    · rw [if_pos isExp, if_pos isExp]
      cases seen : d.expSeen with
      | true => simp [Draft.lowered, seen, loweredResult, ParseError.lowered]
      | false =>
          have fresh : d.lowered.expSeen = false := seen
          rw [fresh]
          exact congrArg Except.ok (addTarget_lowered { d with expSeen := true } text _
            (.badExp text) fun _ _ => rfl)
    · rw [if_neg isExp, if_neg isExp]
      have set := setModifier_lowered (String.ofList name) text d.record.modifiers
      exact congrArg (fun modifiers => Except.ok
        { d.lowered with record := { d.record with modifiers } }) set

theorem takeAll_lowered (d : Draft) (term : String) :
    takeAll d.lowered (Text.lowered term) = (takeAll d term).lowered := by
  have sameTerm : Qualifier.ofAllTerm? (Text.lowered term) = Qualifier.ofAllTerm? term := by
    rw [Qualifier.ofAllTerm?, Text.lowered_lowered, Qualifier.ofAllTerm?]
  rw [takeAll, takeAll, sameTerm]
  cases Qualifier.ofAllTerm? term with
  | none => exact warn_lowered d (.unqualifiedAll term)
  | some q =>
      dsimp only
      change (if d.record.all.isNone then _ else _) = _
      split
      · rfl
      · exact warn_lowered d (.extraAll term)

theorem required_lowered (term : String) (value : Option (List Char))
    {store store' : List Char → Except ParseError Draft}
    (stores : ∀ given, store' (lower given) = loweredResult Draft.lowered (store given)) :
    (required (Text.lowered term) (value.map lower)).bind store' =
      loweredResult Draft.lowered ((required term value).bind store) := by
  rcases value with _ | _ | ⟨c, rest⟩
  · rfl
  · rfl
  · exact stores (c :: rest)

theorem targetOr_lowered (domain : String) (value : Option (List Char)) :
    targetOr (Text.lowered domain) (value.map lower) = Text.lowered (targetOr domain value) := by
  cases value with
  | none => rfl
  | some given =>
      change String.ofList (withoutLength (lower given)) = _
      rw [targetOr, Text.lowered_ofList, withoutLength, withoutLength,
        Text.cut_lower Text.notSlash_caseless]
      cases Text.cut '/' given <;> rfl

theorem takeMechanism_lowered (domain term : String) (d : Draft) (value : Option (List Char))
    (m : Mechanism) :
    takeMechanism (Text.lowered domain) (Text.lowered term) d.lowered (value.map lower) m =
      loweredResult Draft.lowered (takeMechanism domain term d value m) := by
  cases m with
  | all => exact congrArg Except.ok (takeAll_lowered d term)
  | ip4 =>
      refine required_lowered term value fun given => ?_
      dsimp only
      rw [isNetwork_lower Ipv4.isAddress_lower]
      by_cases network : isNetwork Ipv4.isAddress 32 given = true
      · rw [if_pos network, if_pos network, lower_network 32 given network]
        rfl
      · rw [if_neg network, if_neg network, ← Text.lowered_ofList]
        exact congrArg Except.ok (warn_lowered d (.badNetwork .ip4 (String.ofList given)))
  | ip6 =>
      refine required_lowered term value fun given => ?_
      dsimp only
      rw [isNetwork_lower Ipv6.isAddress_lower, Text.lower_lower]
      split
      · rfl
      · rw [← Text.lowered_ofList]
        exact congrArg Except.ok (warn_lowered d (.badNetwork .ip6 (String.ofList given)))
  | a | mx =>
      simp only [takeMechanism, targetOr_lowered]
      exact congrArg Except.ok (addTarget_lowered d _ _ (.badTarget _ _) fun _ _ => rfl)
  | included | existing =>
      refine required_lowered term value fun given => ?_
      rw [← Text.lowered_ofList]
      exact congrArg Except.ok (addTarget_lowered d _ _ (.badTarget _ _) fun _ _ => rfl)
  | ptr => exact congrArg Except.ok (warn_lowered d .deprecatedPtr)

theorem takeTerm_lowered (domain : String) (d : Draft) (term : List Char) :
    takeTerm (Text.lowered domain) d.lowered (lower term) =
      loweredResult Draft.lowered (takeTerm domain d term) := by
  rw [takeTerm, takeTerm, Term.read_lowered]
  cases Term.read term with
  | modifier name value => exact takeModifier_lowered d name value
  | mechanism name value =>
      simp only [Term.lowered, ← Text.lowered_ofList]
      cases Mechanism.ofName? name with
      | none => rfl
      | some m => exact takeMechanism_lowered domain _ d value m

theorem takeTerms_lowered (domain : String) (d : Draft) (terms : List (List Char)) :
    takeTerms (Text.lowered domain) d.lowered (terms.map lower) =
      loweredResult Draft.lowered (takeTerms domain d terms) := by
  induction terms generalizing d with
  | nil => rfl
  | cons term rest ih =>
      rw [List.map_cons, takeTerms, takeTerms, takeTerm_lowered]
      cases takeTerm domain d term with
      | error error => rfl
      | ok met => exact ih met

/-- Reading a text in lower case gives in lower case what reading the text gives. -/
theorem parse_lowered (domain text : String) :
    Record.parse (Text.lowered domain) (Text.lowered text) =
      loweredResult (Prod.map Record.lowered (List.map Warning.lowered))
        (Record.parse domain text) := by
  have first : firstWord (Text.lowered text) = lower (firstWord text) := by
    rw [firstWord, Text.lowered, String.toList_ofList, Text.words_lower, firstWord]
    cases Text.words text.toList <;> rfl
  have later : laterWords (Text.lowered text) = (laterWords text).map lower := by
    rw [laterWords, Text.lowered, String.toList_ofList, Text.words_lower, laterWords,
      List.map_tail]
  rw [parse_eq, parse_eq, first, later, Text.sameLetters_lower]
  split
  · have read := takeTerms_lowered domain {} (laterWords text)
    change takeTerms _ {} _ = _ at read
    rw [read]
    cases takeTerms domain {} (laterWords text) <;> rfl
  · rw [← Text.lowered_ofList]
    rfl

theorem isRecord_lower (s : List Char) : isRecord (lower s) = isRecord s := by
  have solid : Text.Caseless (!Text.isBlank ·) := fun c => congrArg not (Text.isBlank_caseless c)
  have byWord :=
    Text.opensWith_iff_takeWhile version Text.isBlank Text.isBlank_caseless version_solid
  rw [Bool.eq_iff_iff, isRecord_iff, isRecord_iff, byWord, byWord, Text.takeWhile_lower solid,
    Text.lower_lower]

theorem record_of_lowered {r other : Record} (same : r.lowered = other.lowered) :
    other = { r with modifiers := other.modifiers } ∧
      other.modifiers.map Prod.fst = r.modifiers.map Prod.fst := by
  have names : ∀ modifiers, (loweredModifiers modifiers).map Prod.fst = modifiers.map Prod.fst := by
    simp [loweredModifiers]
  have sameModifiers := congrArg Record.modifiers same
  refine ⟨?_, ?_⟩
  · cases r
    cases other
    simp_all [Record.lowered]
  · rw [← names other.modifiers, ← names r.modifiers]
    exact congrArg (List.map Prod.fst) sameModifiers.symm

/-- Of two texts that differ in letter case only, both are chosen as records or neither is, and
reading them ends alike: with the same error about texts that differ in case only, or with as many
warnings and with records that differ in the values of modifiers at most. -/
theorem parse_caseless (domain first second : String)
    (same : Text.lowered first = Text.lowered second) :
    isRecord first.toList = isRecord second.toList ∧
    ((∃ error other, Record.parse domain first = .error error ∧
        Record.parse domain second = .error other ∧ error.lowered = other.lowered) ∨
      ∃ r other warnings others, Record.parse domain first = .ok (r, warnings) ∧
        Record.parse domain second = .ok (other, others) ∧ warnings.length = others.length ∧
        warnings.map Warning.lowered = others.map Warning.lowered ∧
        other = { r with modifiers := other.modifiers } ∧
        other.modifiers.map Prod.fst = r.modifiers.map Prod.fst) := by
  constructor
  · have sameLetters := congrArg String.toList same
    rw [Text.lowered, Text.lowered, String.toList_ofList, String.toList_ofList] at sameLetters
    rw [← isRecord_lower, sameLetters, isRecord_lower]
  · have alike := (parse_lowered domain first).symm
    rw [same, parse_lowered] at alike
    cases read : Record.parse domain first with
    | error error =>
        rw [read] at alike
        cases read' : Record.parse domain second with
        | error other =>
            rw [read'] at alike
            exact .inl ⟨error, other, rfl, rfl, Except.error.inj alike⟩
        | ok found =>
            rw [read'] at alike
            cases alike
    | ok found =>
        rw [read] at alike
        cases read' : Record.parse domain second with
        | error other =>
            rw [read'] at alike
            cases alike
        | ok found' =>
            rw [read'] at alike
            obtain ⟨sameRecord, sameWarnings⟩ := Prod.mk.inj (Except.ok.inj alike)
            refine .inr ⟨found.1, found'.1, found.2, found'.2, rfl, rfl, ?_, sameWarnings,
              record_of_lowered sameRecord⟩
            simpa using congrArg List.length sameWarnings

def loudRecord : String := "V=SPF1 IP6:2001:DB8::/32 INCLUDE:B.EXAMPLE IP4:X CONTACT=ANN -ALL"

def quietRecord : String := "v=spf1 ip6:2001:db8::/32 include:b.example ip4:x contact=ann -all"

theorem loudRecord_caseless :
    Text.lowered loudRecord = Text.lowered quietRecord ∧
    ∃ r other warnings others, Record.parse "a.example" loudRecord = .ok (r, warnings) ∧
      Record.parse "a.example" quietRecord = .ok (other, others) ∧
      warnings.length = others.length ∧ warnings = [.badNetwork .ip4 "X"] ∧
      other = { r with modifiers := other.modifiers } ∧ r.ip6 = ["2001:db8::/32"] ∧
      r.modifiers = [("contact", "ANN")] ∧ other.modifiers = [("contact", "ann")] := by
  have same : Text.lowered loudRecord = Text.lowered quietRecord := by decide +kernel
  have held : ((Record.parse "a.example" loudRecord).toOption.any fun (r, warnings) =>
      warnings = [.badNetwork .ip4 "X"] ∧ r.ip6 = ["2001:db8::/32"] ∧
        r.modifiers = [("contact", "ANN")]) = true := by decide +kernel
  have held' : ((Record.parse "a.example" quietRecord).toOption.any fun (r, _) =>
      r.modifiers = [("contact", "ann")]) = true := by decide +kernel
  obtain ⟨_, ended⟩ := parse_caseless "a.example" loudRecord quietRecord same
  rcases ended with ⟨_, _, refused, _⟩ |
    ⟨r, other, warnings, others, read, read', count, _, alike, _⟩
  · rw [refused] at held
    cases held
  · rw [read] at held
    rw [read'] at held'
    obtain ⟨dropped, networks, named⟩ := of_decide_eq_true held
    exact ⟨same, r, other, warnings, others, read, read', count, dropped, alike, networks, named,
      of_decide_eq_true held'⟩

end Spf

end SenderAudit
