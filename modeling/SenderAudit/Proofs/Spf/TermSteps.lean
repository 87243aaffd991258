import Mathlib.Data.List.Induction
import SenderAudit.Proofs.Spf.TermForms
import SenderAudit.Spf.Parser

/-!
What one term does to a draft, said once: a term that is taken is kept in one place of the
record, or is warned about, and leaves everything else alone. A reading takes the terms in
order, so what every step keeps holds of the whole reading.
-/
namespace SenderAudit.Spf

def canonical? (target : String) : Option String :=
  (DomainName.parse target).toOption.map (·.text)

namespace Mechanism

theorem mem_every (m : Mechanism) : m ∈ every := by
  cases m <;> decide

theorem name_injective (m n : Mechanism) (same : m.name.toList = n.name.toList) : m = n := by
  revert same
  cases m <;> cases n <;> decide

theorem name_of_ofName? (m : Mechanism) (s : List Char) (found : ofName? s = some m) :
    Text.lower s = m.name.toList := by
  have alike : (m.name.toList == Text.lower s) = true :=
    List.find?_some (p := fun m : Mechanism => m.name.toList == Text.lower s) found
  exact (beq_iff_eq.mp alike).symm

theorem ofName?_name (m : Mechanism) (s : List Char) (isName : Text.lower s = m.name.toList) :
    ofName? s = some m := by
  have isSome : (ofName? s).isSome = true := by
    rw [ofName?, List.find?_isSome]
    exact ⟨m, mem_every m, beq_iff_eq.mpr isName.symm⟩
  obtain ⟨n, found⟩ := Option.isSome_iff_exists.mp isSome
  rw [found, name_injective n m ((name_of_ofName? n s found).symm.trans isName)]

/-- What a record published at `domain` keeps of a mechanism's value, if it keeps it. -/
def accepts (domain : String) (value : Option (List Char)) : Mechanism → Option String
  | .ip4 => value.bind fun network =>
      if isNetwork Ipv4.isAddress 32 network then some (String.ofList network) else none
  | .ip6 => value.bind fun network =>
      if isNetwork Ipv6.isAddress 128 network then some (String.ofList (Text.lower network))
      else none
  | .a | .mx => canonical? (targetOr domain value)
  | .included | .existing => value.bind fun target => canonical? (String.ofList target)
  | .all | .ptr => none

end Mechanism

namespace Record

def kept (r : Record) : Mechanism → List String
  | .ip4 => r.ip4
  | .ip6 => r.ip6
  | .a => r.a.map (·.text)
  | .mx => r.mx.map (·.text)
  | .included => r.includes.map (·.text)
  | .existing => r.existing.map (·.text)
  | .all | .ptr => []

structure Keeps (m : Mechanism) (value : String) (before after : Record) : Prop where
  kept : ∀ n, after.kept n = before.kept n ++ if n = m then [value] else []
  all : after.all = before.all
  redirect : after.redirect = before.redirect
  exp : after.exp = before.exp
  modifiers : after.modifiers = before.modifiers

end Record

theorem bind_ok {ε α β : Type} {first : Except ε α} {second : α → Except ε β} {result : β}
    (ok : first.bind second = .ok result) : ∃ met, first = .ok met ∧ second met = .ok result := by
  cases first with
  | error error => cases ok
  | ok met => exact ⟨met, rfl, ok⟩

theorem read_lower (term name : List Char) (value : Option (List Char))
    (read : Term.read term = .mechanism name value) : Text.lower name = name := by
  have states := (read_iff term _).mp read
  cases states
  exact Text.lower_lower _

/-- What taking a term of a record published at `domain` makes of a draft. -/
inductive Taken (domain : String) (term : List Char) (d : Draft) : Draft → Prop
  | kept {m : Mechanism} {value : Option (List Char)} {text : String} {record : Record}
      (read : Term.read term = .mechanism m.name.toList value)
      (accepts : m.accepts domain value = some text) (keeps : d.record.Keeps m text record) :
      Taken domain term d { d with record }
  | warned {m : Mechanism} {value : Option (List Char)} (warning : Warning)
      (read : Term.read term = .mechanism m.name.toList value)
      (refuses : m.accepts domain value = none)
      (noAll : m = .all → Qualifier.ofAllTerm? (String.ofList term) = none ∨
        d.record.all.isSome = true) :
      Taken domain term d (d.warn warning)
  | qualified {value : Option (List Char)} {q : Qualifier}
      (read : Term.read term = .mechanism Mechanism.all.name.toList value)
      (isAll : Qualifier.ofAllTerm? (String.ofList term) = some q) (first : d.record.all = none) :
      Taken domain term d { d with record := { d.record with all := some q } }
  | redirected {value : List Char} {target : DomainName}
      (read : Term.read term = .modifier "redirect".toList value)
      (fresh : d.redirectSeen = false)
      (parsed : DomainName.parse (String.ofList value) = .ok target) :
      Taken domain term d
        { d with redirectSeen := true, record := { d.record with redirect := some target } }
  | redirectDropped {value : List Char} (warning : Warning)
      (read : Term.read term = .modifier "redirect".toList value)
      (fresh : d.redirectSeen = false) :
      Taken domain term d ({ d with redirectSeen := true }.warn warning)
  | explained {value : List Char} {target : DomainName}
      (read : Term.read term = .modifier "exp".toList value)
      (fresh : d.expSeen = false)
      (parsed : DomainName.parse (String.ofList value) = .ok target) :
      Taken domain term d
        { d with expSeen := true, record := { d.record with exp := some target } }
  | explanationDropped {value : List Char} (warning : Warning)
      (read : Term.read term = .modifier "exp".toList value)
      (fresh : d.expSeen = false) :
      Taken domain term d ({ d with expSeen := true }.warn warning)
  | other {name value : List Char} (read : Term.read term = .modifier name value)
      (noRedirect : name ≠ "redirect".toList) (noExp : name ≠ "exp".toList) :
      Taken domain term d { d with
        record.modifiers :=
          setModifier (String.ofList name) (String.ofList value) d.record.modifiers }

theorem addTarget_cases (d : Draft) (target : String) (add : Record → DomainName → Record)
    (otherwise : Warning) :
    (∃ name, DomainName.parse target = .ok name ∧
      d.addTarget target add otherwise = { d with record := add d.record name }) ∨
    (canonical? target = none ∧ d.addTarget target add otherwise = d.warn otherwise) := by
  rw [Draft.addTarget, canonical?]
  cases DomainName.parse target with
  | ok name => exact Or.inl ⟨name, rfl, rfl⟩
  | error fault => exact Or.inr ⟨rfl, rfl⟩

section Steps

variable {domain : String} {term : List Char} {d after : Draft}

theorem takeModifier_taken {name value : List Char}
    (read : Term.read term = .modifier name value)
    (step : takeModifier d name value = .ok after) : Taken domain term d after := by
  rw [takeModifier] at step
  by_cases isRedirect : name = "redirect".toList
  · subst isRedirect
    rw [if_pos rfl] at step
    split at step
    · cases step
    · rename_i fresh
      obtain rfl := Except.ok.inj step
      rcases addTarget_cases { d with redirectSeen := true } (String.ofList value)
        (fun r target => { r with redirect := some target })
        (.badRedirect (String.ofList value)) with ⟨target, parsed, added⟩ | ⟨_, dropped⟩
      · rw [added]
        exact .redirected read (Bool.eq_false_iff.mpr fresh) parsed
      · rw [dropped]
        exact .redirectDropped _ read (Bool.eq_false_iff.mpr fresh)
  · rw [if_neg isRedirect] at step
    by_cases isExp : name = "exp".toList
    · subst isExp
      rw [if_pos rfl] at step
      split at step
      · cases step
      · rename_i fresh
        obtain rfl := Except.ok.inj step
        rcases addTarget_cases { d with expSeen := true } (String.ofList value)
          (fun r target => { r with exp := some target })
          (.badExp (String.ofList value)) with ⟨target, parsed, added⟩ | ⟨_, dropped⟩
        · rw [added]
          exact .explained read (Bool.eq_false_iff.mpr fresh) parsed
        · rw [dropped]
          exact .explanationDropped _ read (Bool.eq_false_iff.mpr fresh)
    · rw [if_neg isExp] at step
      obtain rfl := Except.ok.inj step
      exact .other read isRedirect isExp

theorem takeAll_taken {value : Option (List Char)}
    (read : Term.read term = .mechanism Mechanism.all.name.toList value) :
    Taken domain term d (takeAll d (String.ofList term)) := by
  rw [takeAll]
  cases isAll : Qualifier.ofAllTerm? (String.ofList term) with
  | none => exact .warned _ read rfl fun _ => Or.inl isAll
  | some q =>
      cases earlier : d.record.all with
      | none => exact .qualified read isAll earlier
      | some _ => exact .warned _ read rfl fun _ => Or.inr (earlier ▸ rfl)

theorem required_ok {text : String} {value : Option (List Char)} {given : List Char}
    (isThere : required text value = .ok given) : value = some given := by
  unfold required at isThere
  split at isThere
  · exact congrArg some (Except.ok.inj isThere)
  · cases isThere

theorem addTarget_taken {m : Mechanism} {value : Option (List Char)}
    {add : Record → DomainName → Record} {target : String} (warning : Warning)
    (read : Term.read term = .mechanism m.name.toList value)
    (accepts : m.accepts domain value = canonical? target) (notAll : m ≠ .all)
    (keeps : ∀ name, d.record.Keeps m name.text (add d.record name)) :
    Taken domain term d (d.addTarget target add warning) := by
  rcases addTarget_cases d target add warning with ⟨name, parsed, added⟩ | ⟨unread, dropped⟩
  · rw [added]
    refine .kept read (accepts.trans ?_) (keeps name)
    rw [canonical?, parsed]
    rfl
  · rw [dropped]
    exact .warned _ read (accepts.trans unread) fun isAll => absurd isAll notAll

theorem network_taken {m : Mechanism} {value : List Char} {isValid : Bool} {text : String}
    {record : Record} (warning : Warning)
    (read : Term.read term = .mechanism m.name.toList (some value))
    (accepts : m.accepts domain (some value) = if isValid then some text else none)
    (notAll : m ≠ .all) (keeps : d.record.Keeps m text record) :
    Taken domain term d (if isValid then { d with record } else d.warn warning) := by
  cases isValid with
  | true => exact .kept read accepts keeps
  | false => exact .warned _ read accepts fun isAll => absurd isAll notAll

theorem takeMechanism_taken {m : Mechanism} {value : Option (List Char)}
    (read : Term.read term = .mechanism m.name.toList value)
    (step : takeMechanism domain (String.ofList term) d value m = .ok after) :
    Taken domain term d after := by
  cases m with
  | all =>
      obtain rfl := Except.ok.inj step
      exact takeAll_taken read
  | ip4 | ip6 =>
      obtain ⟨network, isThere, stored⟩ := bind_ok step
      cases required_ok isThere
      dsimp only at stored
      rw [← apply_ite Except.ok] at stored
      obtain rfl := Except.ok.inj stored
      refine network_taken _ read rfl (by decide) ⟨fun n => ?_, rfl, rfl, rfl, rfl⟩
      cases n <;> simp [Record.kept]
  | a | mx =>
      obtain rfl := Except.ok.inj step
      refine addTarget_taken _ read rfl (by decide) fun name => ⟨fun n => ?_, rfl, rfl, rfl, rfl⟩
      cases n <;> simp [Record.kept]
  | included | existing =>
      obtain ⟨target, isThere, stored⟩ := bind_ok step
      cases required_ok isThere
      obtain rfl := Except.ok.inj stored
      refine addTarget_taken _ read rfl (by decide) fun name => ⟨fun n => ?_, rfl, rfl, rfl, rfl⟩
      cases n <;> simp [Record.kept]
  | ptr =>
      obtain rfl := Except.ok.inj step
      exact .warned _ read rfl (by simp)

/-- A step keeps the term in one place, or warns about it. -/
theorem takeTerm_taken (step : takeTerm domain d term = .ok after) :
    Taken domain term d after := by
  rw [takeTerm] at step
  cases read : Term.read term with
  | modifier name value =>
      rw [read] at step
      exact takeModifier_taken read step
  | mechanism name value =>
      rw [read] at step
      dsimp only at step
      cases named : Mechanism.ofName? name with
      | none =>
          rw [named] at step
          cases step
      | some m =>
          rw [named] at step
          have isName := m.name_of_ofName? name named
          rw [read_lower term name value read] at isName
          exact takeMechanism_taken (isName ▸ read) step

end Steps

/-! The reading takes one term after another. -/

theorem takeTerms_append (domain : String) (first last : List (List Char)) (d : Draft) :
    takeTerms domain d (first ++ last) =
      (takeTerms domain d first).bind fun met => takeTerms domain met last := by
  induction first generalizing d with
  | nil => rfl
  | cons term rest ih =>
      rw [List.cons_append, takeTerms, takeTerms]
      cases takeTerm domain d term with
      | error error => rfl
      | ok met => exact ih met

theorem takeTerms_singleton (domain : String) (term : List Char) (d : Draft) :
    takeTerms domain d [term] = takeTerm domain d term := by
  rw [takeTerms]
  cases takeTerm domain d term <;> rfl

/-- What holds before the first term, and is kept by taking one, holds of what is read. -/
theorem takeTerms_induct (domain : String) {P : List (List Char) → Draft → Prop}
    (start : P [] {})
    (step : ∀ terms d term after, P terms d → takeTerm domain d term = .ok after →
      P (terms ++ [term]) after)
    (terms : List (List Char)) (d : Draft) (read : takeTerms domain {} terms = .ok d) :
    P terms d := by
  induction terms using List.reverseRecOn generalizing d with
  | nil =>
      obtain rfl := Except.ok.inj read
      exact start
  | append_singleton terms term ih =>
      rw [takeTerms_append] at read
      obtain ⟨met, before, last⟩ := bind_ok read
      rw [takeTerms_singleton] at last
      exact step terms met term d (ih met before) last

/-! A text is read from its second word on, if its first word is the version. -/

/-- The first word of a text; an empty one if there is none. -/
def firstWord (text : String) : List Char :=
  (Text.words text.toList).headD []

def laterWords (text : String) : List (List Char) :=
  (Text.words text.toList).tail

def IsVersion (word : List Char) : Prop :=
  Text.lower word = "v=spf1".toList

theorem parse_eq (domain text : String) :
    Record.parse domain text = if Text.sameLetters (firstWord text) version then
      (takeTerms domain {} (laterWords text)).bind fun d => .ok (d.record, d.warnings)
    else .error (.invalidVersion (String.ofList (firstWord text))) :=
  rfl

theorem sameLetters_version (word : List Char) :
    Text.sameLetters word version = true ↔ IsVersion word := by
  rw [Text.sameLetters, beq_iff_eq]
  rfl

theorem parse_ok_iff (domain text : String) (record : Record) (warnings : List Warning) :
    Record.parse domain text = .ok (record, warnings) ↔ IsVersion (firstWord text) ∧
      ∃ d, takeTerms domain {} (laterWords text) = .ok d ∧
        d.record = record ∧ d.warnings = warnings := by
  rw [parse_eq, ← sameLetters_version]
  split
  · rename_i isVersion
    cases takeTerms domain {} (laterWords text) with
    | error error => simp [Except.bind]
    | ok d => simp [Except.bind, isVersion]
  · rename_i other
    simp [other]

theorem parse_error_iff (domain text : String) (error : ParseError) :
    Record.parse domain text = .error error ↔
      (¬ IsVersion (firstWord text) ∧
        error = .invalidVersion (String.ofList (firstWord text))) ∨
      (IsVersion (firstWord text) ∧ takeTerms domain {} (laterWords text) = .error error) := by
  rw [parse_eq, ← sameLetters_version]
  split
  · rename_i isVersion
    cases takeTerms domain {} (laterWords text) with
    | error earlier => simp [Except.bind, isVersion]
    | ok d => simp [Except.bind, isVersion]
  · rename_i other
    simp [other, eq_comm]

end SenderAudit.Spf
