import Mathlib.Data.List.Forall2
import Mathlib.Data.String.Basic
import SenderAudit.Proofs.Spf.TermSteps

/-!
The account of the terms of a record: each of them is kept in one place or warned about, and
nothing else is kept. What a term states decides where it belongs; the order of the record
is kept, and of two modifiers of one name the later counts.
-/
namespace SenderAudit.Spf

namespace Term

/-- What a record published at `domain` keeps of a term under a mechanism. -/
def accepted (domain : String) (m : Mechanism) : Term → Option String
  | .mechanism name value => if name = m.name.toList then m.accepts domain value else none
  | .modifier _ _ => none

def other? : Term → Option (String × String)
  | .modifier name value =>
      if name = "redirect".toList ∨ name = "exp".toList then none
      else some (String.ofList name, String.ofList value)
  | .mechanism _ _ => none

theorem accepted_own (domain : String) (m : Mechanism) (value : Option (List Char)) :
    (mechanism m.name.toList value).accepted domain m = m.accepts domain value :=
  if_pos rfl

theorem accepted_other (domain : String) (m n : Mechanism) (value : Option (List Char))
    (apart : n ≠ m) : (mechanism m.name.toList value).accepted domain n = none :=
  if_neg fun same => apart (Mechanism.name_injective m n same).symm

theorem other?_mechanism (name : List Char) (value : Option (List Char)) :
    (mechanism name value).other? = none :=
  rfl

theorem other?_redirect (value : List Char) :
    (modifier "redirect".toList value).other? = none := by
  rw [other?, if_pos (Or.inl rfl)]

theorem other?_exp (value : List Char) : (modifier "exp".toList value).other? = none := by
  rw [other?, if_pos (Or.inr rfl)]

theorem other?_of_apart {name value : List Char} (noRedirect : name ≠ "redirect".toList)
    (noExp : name ≠ "exp".toList) :
    (modifier name value).other? = some (String.ofList name, String.ofList value) :=
  if_neg (not_or.mpr ⟨noRedirect, noExp⟩)

end Term

/-! A term that qualifies `all` is read as that mechanism. -/

theorem sign_of_toLower (c : Char) (sign : c.toLower ∈ ['+', '-', '~', '?']) :
    c ∈ ['+', '-', '~', '?'] := by
  by_cases small : c.toNat < 128
  · exact Text.of_table (P := fun c => c.toLower ∈ ['+', '-', '~', '?'] →
      c ∈ ['+', '-', '~', '?']) (by decide) c small sign
  · rwa [Text.toLower_of_large c small] at sign

theorem allTerm_form (q : Qualifier) :
    ∃ sign ∈ ['+', '-', '~', '?'], q.allTerm.toList = sign :: "all".toList := by
  cases q with
  | pass => exact ⟨'+', by decide, by decide⟩
  | fail => exact ⟨'-', by decide, by decide⟩
  | softFail => exact ⟨'~', by decide, by decide⟩
  | neutral => exact ⟨'?', by decide, by decide⟩

theorem sign_plain (c : Char) (sign : c ∈ ['+', '-', '~', '?']) :
    c.isAlpha = false ∧ c.toLower = c ∧ c ∉ "all".toList := by
  simp only [List.mem_cons, List.not_mem_nil, or_false] at sign
  rcases sign with rfl | rfl | rfl | rfl <;> decide

theorem read_all (term : List Char) (q : Qualifier)
    (isAll : Qualifier.ofAllTerm? (String.ofList term) = some q) :
    Term.read term = .mechanism Mechanism.all.name.toList none := by
  have alike : (q.allTerm == Text.lowered (String.ofList term)) = true :=
    List.find?_some (p := fun q : Qualifier => q.allTerm == Text.lowered (String.ofList term)) isAll
  have lowered : Text.lower term = q.allTerm.toList := by
    rw [beq_iff_eq.mp alike, Text.lowered, String.toList_ofList, String.toList_ofList]
  obtain ⟨sign, isSign, form⟩ := allTerm_form q
  rw [form] at lowered
  obtain ⟨first, rest, rfl, same, letters⟩ := List.map_eq_cons_iff.mp lowered
  -- A character that is its own lower case is in the rest only if it is in `all`.
  have absent : ∀ c, c.toLower = c → c ∉ "all".toList → c ∉ rest := by
    intro c own outside member
    have kept := List.mem_map_of_mem (f := Char.toLower) member
    rw [letters, own] at kept
    exact outside kept
  have isFirst := sign_of_toLower first (same ▸ isSign)
  have states : States (first :: rest) (.mechanism (Text.lower rest) none) := by
    refine @States.mechanism _ [first] rest rest none ?_ rfl ?_ ?_ ?_
    · rintro name value ⟨split, _, letter, others, rfl, isLetter, _⟩
      rw [← (List.cons.inj split).1, (sign_plain first isFirst).1] at isLetter
      cases isLetter
    · intro c member
      rwa [List.mem_singleton.mp member]
    · intro c isHead isSign
      obtain ⟨_, own, outside⟩ := sign_plain c isSign
      exact absent c own outside (List.mem_of_head? isHead)
    · exact .bare (absent ':' (by decide) (by decide)) (absent '/' (by decide) (by decide))
  rw [(read_iff _ _).mpr states]
  exact congrArg (Term.mechanism · none) letters

/-! What a step adds to each account. -/

def Record.listed (r : Record) : Nat :=
  r.ip4.length + r.ip6.length + r.a.length + r.mx.length + r.includes.length + r.existing.length

def Draft.size (d : Draft) : Nat :=
  d.record.listed + d.record.all.toList.length + d.record.redirect.toList.length +
    d.record.exp.toList.length + d.warnings.length

/-- A modifier that has not been seen has no target. -/
structure Draft.Unset (d : Draft) : Prop where
  redirect : d.redirectSeen = false → d.record.redirect = none
  exp : d.expSeen = false → d.record.exp = none

theorem Record.Keeps.listed {m : Mechanism} {value : String} {before after : Record}
    (keeps : before.Keeps m value after) (isList : m ≠ .all ∧ m ≠ .ptr) :
    after.listed = before.listed + 1 := by
  have length : ∀ n, (after.kept n).length = (before.kept n).length + if n = m then 1 else 0 := by
    intro n
    rw [keeps.kept, List.length_append]
    split <;> rfl
  have ip4 := length .ip4
  have ip6 := length .ip6
  have a := length .a
  have mx := length .mx
  have included := length .included
  have existing := length .existing
  simp only [Record.kept, List.length_map] at ip4 ip6 a mx included existing
  rw [Record.listed, Record.listed, ip4, ip6, a, mx, included, existing]
  cases m <;> simp at isList ⊢ <;> omega

section Steps

variable {domain : String} {term : List Char} {d after : Draft}

theorem kept_step (taken : Taken domain term d after) (m : Mechanism) :
    after.record.kept m = d.record.kept m ++ ((Term.read term).accepted domain m).toList := by
  have still : ∀ record : Record, record.kept m = d.record.kept m →
      (Term.read term).accepted domain m = none →
      record.kept m = d.record.kept m ++ ((Term.read term).accepted domain m).toList := by
    intro record same unaccepted
    rw [same, unaccepted]
    exact (List.append_nil _).symm
  cases taken with
  | @kept own value text record read accepts keeps =>
      dsimp only
      rw [keeps.kept, read]
      split
      · rename_i same
        rw [same, Term.accepted_own, accepts]
        rfl
      · rename_i apart
        rw [Term.accepted_other domain own m value apart]
        rfl
  | @warned own value warning read refuses noAll =>
      refine still _ rfl ?_
      rw [read]
      by_cases same : m = own
      · rw [same, Term.accepted_own, refuses]
      · exact Term.accepted_other domain own m value same
  | @qualified value q read isAll first =>
      refine still _ (by cases m <;> rfl) ?_
      rw [read]
      by_cases same : m = .all
      · rw [same]
        rfl
      · exact Term.accepted_other domain .all m value same
  | redirected read | redirectDropped _ read | explained read | explanationDropped _ read
  | other read =>
      refine still _ (by cases m <;> rfl) ?_
      rw [read]
      rfl

theorem read_apart {m : Mechanism} {value : Option (List Char)}
    (read : Term.read term = .mechanism m.name.toList value) (notAll : m ≠ .all) :
    ∀ given, Term.read term ≠ .mechanism Mechanism.all.name.toList given := by
  intro given isAll
  rw [read] at isAll
  exact notAll (Mechanism.name_injective m .all (Term.mechanism.inj isAll).1)

theorem all_step (taken : Taken domain term d after) :
    after.record.all = d.record.all.or (Qualifier.ofAllTerm? (String.ofList term)) := by
  have unqualified : (∀ value, Term.read term ≠ .mechanism Mechanism.all.name.toList value) →
      Qualifier.ofAllTerm? (String.ofList term) = none := by
    intro otherwise
    cases isAll : Qualifier.ofAllTerm? (String.ofList term) with
    | none => rfl
    | some q => exact absurd (read_all term q isAll) (otherwise none)
  cases taken with
  | @kept own value text record read accepts keeps =>
      have notAll : own ≠ .all := by
        rintro rfl
        cases accepts
      rw [unqualified (read_apart read notAll), Option.or_none]
      exact keeps.all
  | @warned own value warning read refuses noAll =>
      by_cases isAll : own = .all
      · rcases noAll isAll with unqualified | earlier
        · rw [unqualified, Option.or_none]
          rfl
        · rw [Option.or_of_isSome earlier]
          rfl
      · rw [unqualified (read_apart read isAll), Option.or_none]
        rfl
  | qualified read isAll first =>
      rw [first, isAll]
      rfl
  | redirected read | redirectDropped _ read | explained read | explanationDropped _ read
  | other read =>
      rw [unqualified (by simp [read])]
      exact Option.or_none.symm

theorem modifiers_step (taken : Taken domain term d after) :
    after.record.modifiers = ((Term.read term).other?.toList).foldl
      (fun modifiers entry => setModifier entry.1 entry.2 modifiers) d.record.modifiers := by
  cases taken with
  | kept read _ keeps =>
      rw [read]
      exact keeps.modifiers
  | warned _ read | qualified read =>
      rw [read]
      rfl
  | redirected read | redirectDropped _ read =>
      rw [read, Term.other?_redirect]
      rfl
  | explained read | explanationDropped _ read =>
      rw [read, Term.other?_exp]
      rfl
  | other read noRedirect noExp =>
      rw [read, Term.other?_of_apart noRedirect noExp]
      rfl

theorem warn_size (d : Draft) (warning : Warning) : (d.warn warning).size = d.size + 1 := by
  simp only [Draft.size, Draft.warn, List.length_append, List.length_singleton]
  omega

/-- A term is kept in one place, or warned about, or else sets another modifier. -/
theorem size_step (taken : Taken domain term d after) (unset : d.Unset) :
    after.size + ((Term.read term).other?.toList).length = d.size + 1 := by
  cases taken with
  | @kept m value text record read accepts keeps =>
      have isList : m ≠ .all ∧ m ≠ .ptr := by
        constructor <;> rintro rfl <;> cases accepts
      rw [read, Term.other?_mechanism, Draft.size, Draft.size, keeps.listed isList, keeps.all,
        keeps.redirect, keeps.exp, Option.toList_none, List.length_nil]
      dsimp only
      omega
  | warned _ read =>
      rw [read, Term.other?_mechanism, warn_size, Option.toList_none, List.length_nil]
  | qualified read isAll first =>
      rw [read, Term.other?_mechanism]
      simp only [Draft.size, Record.listed, first, Option.toList_none, Option.toList_some,
        List.length_nil, List.length_singleton]
      omega
  | redirected read fresh =>
      rw [read, Term.other?_redirect]
      simp only [Draft.size, Record.listed, unset.redirect fresh, Option.toList_none,
        Option.toList_some, List.length_nil, List.length_singleton]
      omega
  | redirectDropped _ read =>
      rw [read, Term.other?_redirect, warn_size, Option.toList_none, List.length_nil]
      rfl
  | explained read fresh =>
      rw [read, Term.other?_exp]
      simp only [Draft.size, Record.listed, unset.exp fresh, Option.toList_none,
        Option.toList_some, List.length_nil, List.length_singleton]
      omega
  | explanationDropped _ read =>
      rw [read, Term.other?_exp, warn_size, Option.toList_none, List.length_nil]
      rfl
  | other read noRedirect noExp =>
      rw [read, Term.other?_of_apart noRedirect noExp]
      rfl

theorem unset_step (taken : Taken domain term d after) (unset : d.Unset) : after.Unset := by
  cases taken with
  | kept read accepts keeps =>
      exact ⟨fun fresh => keeps.redirect.trans (unset.redirect fresh),
        fun fresh => keeps.exp.trans (unset.exp fresh)⟩
  | warned | qualified | other => exact ⟨unset.redirect, unset.exp⟩
  | redirected | redirectDropped =>
      refine ⟨?_, unset.exp⟩
      rintro ⟨⟩
  | explained | explanationDropped =>
      refine ⟨unset.redirect, ?_⟩
      rintro ⟨⟩

end Steps

/-! The other modifiers are kept by name, in ascending order. -/

theorem lookup_entry (key name value : String) (rest : List (String × String)) :
    ((name, value) :: rest).lookup key = if key = name then some value else rest.lookup key := by
  by_cases same : key = name
  · rw [if_pos same, same, List.lookup_cons_self]
  · rw [if_neg same, List.lookup_cons, beq_false_of_ne same]

theorem setModifier_lookup (name value key : String) (modifiers : List (String × String)) :
    (setModifier name value modifiers).lookup key =
      if key = name then some value else modifiers.lookup key := by
  induction modifiers with
  | nil => exact lookup_entry key name value []
  | cons entry rest ih =>
      obtain ⟨other, old⟩ := entry
      rw [setModifier]
      by_cases replaces : name = other
      · rw [if_pos replaces, lookup_entry, lookup_entry, ← replaces]
        by_cases same : key = name <;> simp [same]
      · rw [if_neg replaces]
        by_cases first : name < other
        · rw [if_pos first, lookup_entry]
        · rw [if_neg first, lookup_entry, lookup_entry, ih]
          by_cases same : key = name <;> simp [same, replaces]

theorem mem_setModifier (name value key : String) (modifiers : List (String × String))
    (member : key ∈ (setModifier name value modifiers).map (·.1)) :
    key = name ∨ key ∈ modifiers.map (·.1) := by
  induction modifiers with
  | nil => exact Or.inl (by simpa [setModifier] using member)
  | cons entry rest ih =>
      obtain ⟨other, old⟩ := entry
      rw [setModifier] at member
      by_cases replaces : name = other
      · rw [if_pos replaces] at member
        rcases List.mem_cons.mp member with isName | inRest
        · exact Or.inl isName
        · exact Or.inr (List.mem_cons_of_mem _ inRest)
      · rw [if_neg replaces] at member
        by_cases first : name < other
        · rw [if_pos first] at member
          exact List.mem_cons.mp member
        · rw [if_neg first] at member
          rcases List.mem_cons.mp member with isOther | later
          · exact Or.inr (List.mem_cons.mpr (Or.inl isOther))
          · exact (ih later).imp_right (List.mem_cons_of_mem _)

theorem setModifier_ascending (name value : String) (modifiers : List (String × String))
    (ascending : (modifiers.map (·.1)).Pairwise (· < ·)) :
    ((setModifier name value modifiers).map (·.1)).Pairwise (· < ·) := by
  induction modifiers with
  | nil => exact List.pairwise_singleton _ _
  | cons entry rest ih =>
      obtain ⟨other, old⟩ := entry
      obtain ⟨above, later⟩ := List.pairwise_cons.mp ascending
      rw [setModifier]
      by_cases replaces : name = other
      · subst replaces
        rw [if_pos rfl]
        exact ascending
      · rw [if_neg replaces]
        by_cases first : name < other
        · rw [if_pos first]
          refine List.pairwise_cons.mpr ⟨?_, ascending⟩
          intro key member
          rcases List.mem_cons.mp member with rfl | inRest
          · exact first
          · exact String.lt_trans first (above key inRest)
        · rw [if_neg first]
          refine List.pairwise_cons.mpr ⟨?_, ih later⟩
          intro key member
          rcases mem_setModifier name value key rest member with rfl | inRest
          · exact ((lt_trichotomy key other).resolve_left first).resolve_left replaces
          · exact above key inRest

def setModifiers (entries : List (String × String)) : List (String × String) :=
  entries.foldl (fun modifiers entry => setModifier entry.1 entry.2 modifiers) []

theorem setModifiers_concat (entries : List (String × String)) (name value : String) :
    setModifiers (entries ++ [(name, value)]) = setModifier name value (setModifiers entries) := by
  rw [setModifiers, List.foldl_append]
  rfl

theorem setModifiers_lookup (entries : List (String × String)) (key : String) :
    (setModifiers entries).lookup key = entries.reverse.lookup key := by
  induction entries using List.reverseRecOn with
  | nil => rfl
  | append_singleton entries entry ih =>
      obtain ⟨name, value⟩ := entry
      rw [setModifiers_concat, setModifier_lookup, ih, List.reverse_concat, lookup_entry]

theorem setModifiers_ascending (entries : List (String × String)) :
    ((setModifiers entries).map (·.1)).Pairwise (· < ·) := by
  induction entries using List.reverseRecOn with
  | nil => exact .nil
  | append_singleton entries entry ih =>
      obtain ⟨name, value⟩ := entry
      rw [setModifiers_concat]
      exact setModifier_ascending name value _ ih

/-! The accounts of a reading. -/

/-- What a draft holds after the words that are read. -/
structure Accounts (domain : String) (words : List (List Char)) (d : Draft) : Prop where
  kept : ∀ m, d.record.kept m = (words.map Term.read).filterMap (Term.accepted domain m)
  all : d.record.all = words.findSome? fun word => Qualifier.ofAllTerm? (String.ofList word)
  modifiers : d.record.modifiers = setModifiers ((words.map Term.read).filterMap Term.other?)
  unset : d.Unset
  size : d.size + ((words.map Term.read).filterMap Term.other?).length = words.length

theorem filterMap_concat {α β : Type} (f : α → Option β) (l : List α) (x : α) :
    (l ++ [x]).filterMap f = l.filterMap f ++ (f x).toList := by
  rw [List.filterMap_append]
  cases found : f x <;> simp [found]

theorem accounts_step {domain : String} {words : List (List Char)} {d after : Draft}
    {word : List Char} (accounts : Accounts domain words d) (taken : Taken domain word d after) :
    Accounts domain (words ++ [word]) after where
  kept := by
    intro m
    rw [kept_step taken, accounts.kept, List.map_append, List.map_singleton, filterMap_concat]
  all := by
    rw [all_step taken, accounts.all, List.findSome?_append]
    congr 1
    simp
  modifiers := by
    rw [modifiers_step taken, accounts.modifiers, List.map_append, List.map_singleton,
      filterMap_concat, setModifiers, setModifiers, List.foldl_append]
  unset := unset_step taken accounts.unset
  size := by
    have size := size_step taken accounts.unset
    rw [List.map_append, List.map_singleton, filterMap_concat, List.length_append,
      List.length_append, List.length_singleton, ← accounts.size]
    omega

theorem takeTerms_accounts (domain : String) (words : List (List Char)) (d : Draft)
    (read : takeTerms domain {} words = .ok d) : Accounts domain words d := by
  refine takeTerms_induct domain (P := Accounts domain) ?_ ?_ words d read
  · exact ⟨fun m => by cases m <;> rfl, rfl, rfl, ⟨fun _ => rfl, fun _ => rfl⟩, rfl⟩
  · intro words d word after accounts step
    exact accounts_step accounts (takeTerm_taken step)

theorem states_read (words : List (List Char)) :
    List.Forall₂ States words (words.map Term.read) := by
  rw [List.forall₂_map_right_iff, List.forall₂_same]
  exact fun word _ => (read_iff word _).mp rfl

/-- A record accounts for its terms: every list keeps the accepted values in their order, the
first qualified `all` and the last modifier of each name count, and what is kept and warned
about is as much as there are terms. -/
theorem parse_accounts (domain text : String) (r : Record) (warnings : List Warning)
    (read : Record.parse domain text = .ok (r, warnings)) :
    ∃ terms, List.Forall₂ States (laterWords text) terms ∧
      (∀ m, r.kept m = terms.filterMap (Term.accepted domain m)) ∧
      r.all = (laterWords text).findSome? (fun word => Qualifier.ofAllTerm? (String.ofList word)) ∧
      (∀ name, r.modifiers.lookup name = (terms.filterMap Term.other?).reverse.lookup name) ∧
      (r.modifiers.map (·.1)).Pairwise (· < ·) ∧
      (laterWords text).length = r.ip4.length + r.ip6.length + r.a.length + r.mx.length +
        r.includes.length + r.existing.length + r.all.toList.length + r.redirect.toList.length +
        r.exp.toList.length + (terms.filterMap Term.other?).length + warnings.length := by
  obtain ⟨_, d, taken, rfl, rfl⟩ := (parse_ok_iff domain text r warnings).mp read
  have accounts := takeTerms_accounts domain (laterWords text) d taken
  refine ⟨_, states_read (laterWords text), accounts.kept, accounts.all, ?_, ?_, ?_⟩
  · intro name
    rw [accounts.modifiers, setModifiers_lookup]
  · rw [accounts.modifiers]
    exact setModifiers_ascending _
  · rw [← accounts.size, Draft.size, Record.listed]
    omega

def mixedRecord : String :=
  "V=SPF1 ip4:192.0.2.0/24 a/24 -ALL ip6:2001:DB8::1 ip4:300.0.0.1 include:B.example. ra=x " ++
    "exists:no..name redirect=c.example +all RA=y mx:D.example/28"

theorem mixedRecord_accounts :
    ∃ r warnings, Record.parse "a.example" mixedRecord = .ok (r, warnings) ∧
      (r.all = some .fail ∧ r.modifiers = [("ra", "y")] ∧ warnings.length = 3) ∧
      ∃ terms, List.Forall₂ States (laterWords mixedRecord) terms ∧
        (∀ m, r.kept m = terms.filterMap (Term.accepted "a.example" m)) ∧
        r.all = (laterWords mixedRecord).findSome?
          (fun word => Qualifier.ofAllTerm? (String.ofList word)) ∧
        (∀ name, r.modifiers.lookup name = (terms.filterMap Term.other?).reverse.lookup name) ∧
        (r.modifiers.map (·.1)).Pairwise (· < ·) ∧
        (laterWords mixedRecord).length = r.ip4.length + r.ip6.length + r.a.length +
          r.mx.length + r.includes.length + r.existing.length + r.all.toList.length +
          r.redirect.toList.length + r.exp.toList.length +
          (terms.filterMap Term.other?).length + warnings.length := by
  have evaluated : ((Record.parse "a.example" mixedRecord).toOption.any fun (r, warnings) =>
      r.all = some .fail ∧ r.modifiers = [("ra", "y")] ∧ warnings.length = 3) = true := by
    decide +kernel
  cases read : Record.parse "a.example" mixedRecord with
  | error error =>
      rw [read] at evaluated
      cases evaluated
  | ok result =>
      obtain ⟨r, warnings⟩ := result
      rw [read] at evaluated
      exact ⟨r, warnings, rfl, of_decide_eq_true evaluated,
        parse_accounts "a.example" mixedRecord r warnings read⟩

end SenderAudit.Spf
