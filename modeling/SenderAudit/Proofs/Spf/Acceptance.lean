import SenderAudit.Proofs.Spf.TermSteps

/-!
Which texts are records. A text is one if its first word is the version and no term after it
breaks a rule; otherwise the reading ends with the error of the version, or of the first term
that breaks one. The rules are about single terms, but for the modifiers that may stand only
once: those count whatever their values are.
-/
namespace SenderAudit.Spf

def mechanismNames : List String := ["all", "ip4", "ip6", "a", "mx", "include", "exists", "ptr"]

def valuedNames : List String := ["ip4", "ip6", "include", "exists"]

def uniqueNames : List String := ["redirect", "exp"]

def Sets (name : String) (term : List Char) : Prop :=
  ∃ value, States term (.modifier name.toList value)

/-- The rule that a term after `before` breaks, as the error that says so. -/
inductive Breaks (before : List (List Char)) (term : List Char) : ParseError → Prop
  | unknown {name : List Char} {value : Option (List Char)}
      (states : States term (.mechanism name value))
      (unnamed : String.ofList name ∉ mechanismNames) :
      Breaks before term (.unknownMechanism (String.ofList term))
  | missing {name : List Char} {value : Option (List Char)}
      (states : States term (.mechanism name value))
      (requires : String.ofList name ∈ valuedNames) (empty : value = none ∨ value = some []) :
      Breaks before term (.missingValue (String.ofList term))
  | duplicate {name : String} (unique : name ∈ uniqueNames) (sets : Sets name term)
      (again : ∃ earlier ∈ before, Sets name earlier) :
      Breaks before term (.duplicateModifier name)

theorem sets_iff (name : String) (term : List Char) :
    Sets name term ↔ ∃ value, Term.read term = .modifier name.toList value :=
  exists_congr fun _ => (read_iff term _).symm

instance (name : String) (term : List Char) : Decidable (Sets name term) :=
  decidable_of_iff ((match Term.read term with
    | .modifier found _ => found == name.toList
    | .mechanism _ _ => false) = true) (by
      rw [sets_iff]
      cases Term.read term <;> simp)

/-- Terms of which each keeps the rules, and the unique ones stand at most once. -/
structure Acceptable (terms : List (List Char)) : Prop where
  named : ∀ term ∈ terms, ∀ name value, States term (.mechanism name value) →
    String.ofList name ∈ mechanismNames
  valued : ∀ term ∈ terms, ∀ name value, States term (.mechanism name value) →
    String.ofList name ∈ valuedNames → ∃ c rest, value = some (c :: rest)
  unique : ∀ name ∈ uniqueNames, terms.countP (Sets name) ≤ 1

/-! The rules, one term after another. -/

theorem acceptable_nil : Acceptable [] where
  named := by simp
  valued := by simp
  unique := by simp

/-- Terms are acceptable as long as the next one breaks no rule. -/
theorem acceptable_concat (terms : List (List Char)) (term : List Char) :
    Acceptable (terms ++ [term]) ↔ Acceptable terms ∧ ∀ error, ¬ Breaks terms term error := by
  have count : ∀ name, (terms ++ [term]).countP (Sets name) =
      terms.countP (Sets name) + if Sets name term then 1 else 0 := by
    intro name
    simp [List.countP_append, List.countP_singleton]
  constructor
  · rintro ⟨named, valued, unique⟩
    refine ⟨⟨fun t member => named t (List.mem_append_left _ member),
      fun t member => valued t (List.mem_append_left _ member), ?_⟩, ?_⟩
    · intro name isUnique
      have atMost := unique name isUnique
      rw [count] at atMost
      exact Nat.le_of_add_right_le atMost
    · intro error breaks
      have last : term ∈ terms ++ [term] := List.mem_append_right _ (List.mem_singleton.mpr rfl)
      cases breaks with
      | unknown states unnamed => exact unnamed (named term last _ _ states)
      | missing states requires empty =>
          obtain ⟨c, rest, isSome⟩ := valued term last _ _ states requires
          rw [isSome] at empty
          simp at empty
      | @duplicate name isUnique sets again =>
          obtain ⟨earlier, member, alike⟩ := again
          have before : 0 < terms.countP (Sets name) :=
            List.countP_pos_iff.mpr ⟨earlier, member, decide_eq_true alike⟩
          have atMost := unique name isUnique
          rw [count, if_pos sets] at atMost
          omega
  · rintro ⟨⟨named, valued, unique⟩, keeps⟩
    refine ⟨List.forall_mem_append.mpr ⟨named, ?_⟩, List.forall_mem_append.mpr ⟨valued, ?_⟩, ?_⟩
    · rintro _ last name value states
      obtain rfl := List.mem_singleton.mp last
      by_contra unnamed
      exact keeps _ (.unknown states unnamed)
    · rintro _ last name value states requires
      obtain rfl := List.mem_singleton.mp last
      rcases value with _ | _ | ⟨c, rest⟩
      · exact absurd (.missing states requires (Or.inl rfl)) (keeps _)
      · exact absurd (.missing states requires (Or.inr rfl)) (keeps _)
      · exact ⟨c, rest, rfl⟩
    · intro name isUnique
      rw [count]
      split
      · rename_i sets
        have none' : terms.countP (Sets name) = 0 := by
          apply List.countP_eq_zero.mpr
          intro earlier member alike
          exact keeps _ (.duplicate isUnique sets ⟨earlier, member, of_decide_eq_true alike⟩)
        omega
      · exact unique name isUnique

/-! What a step of the reading refuses. -/

namespace Mechanism

theorem mem_mechanismNames (s : List Char) :
    String.ofList s ∈ mechanismNames ↔ ∃ m : Mechanism, s = m.name.toList := by
  have every : mechanismNames = Mechanism.every.map Mechanism.name := rfl
  rw [every, List.mem_map]
  constructor
  · rintro ⟨m, _, same⟩
    exact ⟨m, by rw [same, String.toList_ofList]⟩
  · rintro ⟨m, rfl⟩
    exact ⟨m, mem_every m, String.ofList_toList.symm⟩

end Mechanism

theorem valued_named : ∀ name ∈ valuedNames, name ∈ mechanismNames := by
  decide

theorem required_error (term : String) (value : Option (List Char))
    (store : List Char → Except ParseError Draft) (stores : ∀ given, ∃ d, store given = .ok d)
    (error : ParseError) :
    (required term value).bind store = .error error ↔
      (value = none ∨ value = some []) ∧ error = .missingValue term := by
  have missing : Except.error (ParseError.missingValue term) = (.error error : Except _ Draft) ↔
      error = .missingValue term := by
    rw [Except.error.injEq, eq_comm]
  rcases value with _ | _ | ⟨c, rest⟩
  · exact missing.trans (and_iff_right (Or.inl rfl)).symm
  · exact missing.trans (and_iff_right (Or.inr rfl)).symm
  · obtain ⟨d, stored⟩ := stores (c :: rest)
    change store (c :: rest) = _ ↔ _
    rw [stored]
    simp

theorem takeMechanism_error (domain term : String) (d : Draft) (value : Option (List Char))
    (m : Mechanism) (error : ParseError) :
    takeMechanism domain term d value m = .error error ↔
      m.name ∈ valuedNames ∧ (value = none ∨ value = some []) ∧ error = .missingValue term := by
  cases m with
  | all | a | mx | ptr =>
      constructor
      · rintro ⟨⟩
      · rintro ⟨valued, _⟩
        exact absurd valued (by decide)
  | ip4 | ip6 =>
      rw [and_iff_right (by decide)]
      refine required_error term value _ ?_ error
      intro given
      dsimp only
      split <;> exact ⟨_, rfl⟩
  | included | existing =>
      rw [and_iff_right (by decide)]
      exact required_error term value _ (fun given => ⟨_, rfl⟩) error

def Draft.seen (d : Draft) (name : List Char) : Bool :=
  if name = "redirect".toList then d.redirectSeen
  else if name = "exp".toList then d.expSeen
  else false

theorem seen_unique (d : Draft) (name : List Char) (seen : d.seen name = true) :
    String.ofList name ∈ uniqueNames := by
  unfold Draft.seen at seen
  split at seen
  · rename_i isRedirect
    rw [isRedirect, String.ofList_toList]
    exact List.mem_cons_self
  · split at seen
    · rename_i isExp
      rw [isExp, String.ofList_toList]
      exact List.mem_cons_of_mem _ List.mem_cons_self
    · cases seen

theorem takeModifier_error (d : Draft) (name value : List Char) (error : ParseError) :
    takeModifier d name value = .error error ↔
      d.seen name = true ∧ error = .duplicateModifier (String.ofList name) := by
  rw [takeModifier, Draft.seen]
  split
  · cases d.redirectSeen <;> simp [eq_comm]
  · split
    · cases d.expSeen <;> simp [eq_comm]
    · simp

section Refusals

variable {terms : List (List Char)} {term name : List Char} {error : ParseError}

theorem breaks_modifier {value : List Char} (states : States term (.modifier name value)) :
    Breaks terms term error ↔ String.ofList name ∈ uniqueNames ∧
      (∃ earlier ∈ terms, Sets (String.ofList name) earlier) ∧
      error = .duplicateModifier (String.ofList name) := by
  have sets : Sets (String.ofList name) term := ⟨value, by rwa [String.toList_ofList]⟩
  constructor
  · intro breaks
    cases breaks with
    | unknown other _ => cases states.unique other
    | missing other _ _ => cases states.unique other
    | @duplicate unique isUnique sets again =>
        obtain ⟨_, other⟩ := sets
        cases states.unique other
        rw [String.ofList_toList]
        exact ⟨isUnique, again, rfl⟩
  · rintro ⟨isUnique, again, rfl⟩
    exact .duplicate isUnique sets again

theorem breaks_mechanism {value : Option (List Char)}
    (states : States term (.mechanism name value)) :
    Breaks terms term error ↔
      (String.ofList name ∉ mechanismNames ∧ error = .unknownMechanism (String.ofList term)) ∨
      (String.ofList name ∈ valuedNames ∧ (value = none ∨ value = some []) ∧
        error = .missingValue (String.ofList term)) := by
  constructor
  · intro breaks
    cases breaks with
    | unknown other unnamed =>
        cases states.unique other
        exact Or.inl ⟨unnamed, rfl⟩
    | missing other requires empty =>
        cases states.unique other
        exact Or.inr ⟨requires, empty, rfl⟩
    | duplicate _ sets _ =>
        obtain ⟨_, other⟩ := sets
        cases states.unique other
  · rintro (⟨unnamed, rfl⟩ | ⟨requires, empty, rfl⟩)
    · exact .unknown states unnamed
    · exact .missing states requires empty

end Refusals

/-! What is marked as seen. -/

theorem seen_redirect (d : Draft) : d.seen "redirect".toList = d.redirectSeen :=
  if_pos rfl

theorem seen_exp (d : Draft) : d.seen "exp".toList = d.expSeen := by
  rw [Draft.seen, if_neg (by decide), if_pos rfl]

theorem not_sets_mechanism {term found : List Char} {value : Option (List Char)} (name : String)
    (read : Term.read term = .mechanism found value) : ¬ Sets name term := by
  rw [sets_iff, read]
  rintro ⟨_, ⟨⟩⟩

theorem sets_modifier {term found value : List Char} (name : String)
    (read : Term.read term = .modifier found value) : Sets name term ↔ found = name.toList := by
  rw [sets_iff, read]
  constructor
  · rintro ⟨_, ⟨⟩⟩
    rfl
  · rintro rfl
    exact ⟨value, rfl⟩

theorem seen_step {domain : String} {term : List Char} {d after : Draft}
    (taken : Taken domain term d after) (name : String) (isUnique : name ∈ uniqueNames) :
    after.seen name.toList = true ↔ d.seen name.toList = true ∨ Sets name term := by
  have isOne : name = "redirect" ∨ name = "exp" := by
    rcases List.mem_cons.mp isUnique with isRedirect | isOther
    · exact Or.inl isRedirect
    · exact Or.inr (List.mem_singleton.mp isOther)
  cases taken with
  | kept read | warned _ read | qualified read =>
      have unset := not_sets_mechanism name read
      exact ⟨Or.inl, fun either => either.resolve_right unset⟩
  | other read noRedirect noExp =>
      have unset : ¬ Sets name term := by
        rw [sets_modifier name read]
        rintro rfl
        rcases isOne with rfl | rfl
        · exact noRedirect rfl
        · exact noExp rfl
      exact ⟨Or.inl, fun either => either.resolve_right unset⟩
  | redirected read | redirectDropped _ read =>
      rcases isOne with rfl | rfl
      · have marked := (sets_modifier "redirect" read).mpr rfl
        exact ⟨fun _ => Or.inr marked, fun _ => seen_redirect _⟩
      · have unset := mt (sets_modifier "exp" read).mp (by decide)
        rw [seen_exp, seen_exp]
        exact ⟨Or.inl, fun either => either.resolve_right unset⟩
  | explained read | explanationDropped _ read =>
      rcases isOne with rfl | rfl
      · have unset := mt (sets_modifier "redirect" read).mp (by decide)
        rw [seen_redirect, seen_redirect]
        exact ⟨Or.inl, fun either => either.resolve_right unset⟩
      · have marked := (sets_modifier "exp" read).mpr rfl
        exact ⟨fun _ => Or.inr marked, fun _ => seen_exp _⟩

/-- The marks tell which modifiers have been set. -/
def Marks (terms : List (List Char)) (d : Draft) : Prop :=
  ∀ name ∈ uniqueNames, d.seen name.toList = true ↔ ∃ earlier ∈ terms, Sets name earlier

theorem takeTerms_marks (domain : String) (terms : List (List Char)) (d : Draft)
    (read : takeTerms domain {} terms = .ok d) : Marks terms d := by
  refine takeTerms_induct domain (P := Marks) ?_ ?_ terms d read
  · intro name isUnique
    rcases List.mem_cons.mp isUnique with rfl | isOther
    · rw [seen_redirect]
      simp
    · obtain rfl := List.mem_singleton.mp isOther
      rw [seen_exp]
      simp
  · intro terms d term after marks step name isUnique
    rw [seen_step (takeTerm_taken step) name isUnique, marks name isUnique]
    simp [or_and_right, exists_or]

theorem takeTerm_error (domain : String) (terms : List (List Char)) (d : Draft)
    (marks : Marks terms d) (term : List Char) (error : ParseError) :
    takeTerm domain d term = .error error ↔ Breaks terms term error := by
  rw [takeTerm]
  cases read : Term.read term with
  | modifier name value =>
      dsimp only
      rw [takeModifier_error, breaks_modifier ((read_iff term _).mp read)]
      constructor
      · rintro ⟨seen, rfl⟩
        have isUnique := seen_unique d name seen
        rw [← String.toList_ofList (l := name)] at seen
        exact ⟨isUnique, (marks _ isUnique).mp seen, rfl⟩
      · rintro ⟨isUnique, again, rfl⟩
        have seen := (marks _ isUnique).mpr again
        rw [String.toList_ofList] at seen
        exact ⟨seen, rfl⟩
  | mechanism name value =>
      have lowered := read_lower term name value read
      dsimp only
      rw [breaks_mechanism ((read_iff term _).mp read)]
      cases named : Mechanism.ofName? name with
      | none =>
          have unnamed : String.ofList name ∉ mechanismNames := by
            rw [Mechanism.mem_mechanismNames]
            rintro ⟨m, isName⟩
            rw [Mechanism.ofName?_name m name (lowered.trans isName)] at named
            cases named
          have unvalued : String.ofList name ∉ valuedNames := fun valued =>
            unnamed (valued_named _ valued)
          simp [unnamed, unvalued, eq_comm]
      | some m =>
          have isName : name = m.name.toList :=
            lowered.symm.trans (Mechanism.name_of_ofName? m name named)
          have known : String.ofList name ∈ mechanismNames :=
            (Mechanism.mem_mechanismNames name).mpr ⟨m, isName⟩
          dsimp only
          rw [takeMechanism_error, isName, String.ofList_toList]
          rw [isName, String.ofList_toList] at known
          simp [known]

/-! What the reading refuses. -/

theorem takeTerms_ok_iff (domain : String) (terms : List (List Char)) :
    (∃ d, takeTerms domain {} terms = .ok d) ↔ Acceptable terms := by
  induction terms using List.reverseRecOn with
  | nil => exact ⟨fun _ => acceptable_nil, fun _ => ⟨{}, rfl⟩⟩
  | append_singleton terms term ih =>
      rw [acceptable_concat, ← ih]
      constructor
      · rintro ⟨d, read⟩
        rw [takeTerms_append] at read
        obtain ⟨met, before, last⟩ := bind_ok read
        rw [takeTerms_singleton] at last
        refine ⟨⟨met, before⟩, fun error breaks => ?_⟩
        have refused := (takeTerm_error domain terms met
          (takeTerms_marks domain terms met before) term error).mpr breaks
        rw [refused] at last
        cases last
      · rintro ⟨⟨met, before⟩, keeps⟩
        rw [takeTerms_append, before]
        change ∃ d, takeTerms domain met [term] = .ok d
        rw [takeTerms_singleton]
        cases step : takeTerm domain met term with
        | ok d => exact ⟨d, rfl⟩
        | error error =>
            exact absurd ((takeTerm_error domain terms met
              (takeTerms_marks domain terms met before) term error).mp step) (keeps error)

/-- The reading ends at the first term that breaks a rule. -/
theorem takeTerms_error_iff (domain : String) (terms : List (List Char)) (error : ParseError) :
    takeTerms domain {} terms = .error error ↔ ∃ before term after,
      terms = before ++ term :: after ∧ Acceptable before ∧ Breaks before term error := by
  constructor
  · intro refused
    induction terms using List.reverseRecOn with
    | nil => cases refused
    | append_singleton terms term ih =>
        rw [takeTerms_append] at refused
        cases start : takeTerms domain {} terms with
        | error earlier =>
            rw [start] at refused
            obtain ⟨before, first, after, rfl, sound, breaks⟩ := ih (start.trans refused)
            exact ⟨before, first, after ++ [term], by simp, sound, breaks⟩
        | ok met =>
            rw [start] at refused
            change takeTerms domain met [term] = _ at refused
            rw [takeTerms_singleton] at refused
            refine ⟨terms, term, [], rfl, (takeTerms_ok_iff domain terms).mp ⟨met, start⟩, ?_⟩
            exact (takeTerm_error domain terms met
              (takeTerms_marks domain terms met start) term error).mp refused
  · rintro ⟨before, term, after, rfl, sound, breaks⟩
    obtain ⟨met, start⟩ := (takeTerms_ok_iff domain before).mpr sound
    have refused := (takeTerm_error domain before met
      (takeTerms_marks domain before met start) term error).mpr breaks
    rw [takeTerms_append, start]
    change takeTerms domain met (term :: after) = _
    rw [takeTerms, refused]
    rfl

/-- A text is a record exactly if it starts with the version and its terms are acceptable;
what else is said of a text is about its version, or about the first term that breaks a rule
after terms that do not. -/
theorem parse_outcome (domain text : String) :
    ((∃ record warnings, Record.parse domain text = .ok (record, warnings)) ↔
      IsVersion (firstWord text) ∧ Acceptable (laterWords text)) ∧
    ∀ error, Record.parse domain text = .error error ↔
      (¬ IsVersion (firstWord text) ∧
        error = .invalidVersion (String.ofList (firstWord text))) ∨
      (IsVersion (firstWord text) ∧ ∃ before term after,
        laterWords text = before ++ term :: after ∧ Acceptable before ∧
          Breaks before term error) := by
  constructor
  · rw [← takeTerms_ok_iff domain]
    constructor
    · rintro ⟨record, warnings, read⟩
      obtain ⟨isVersion, d, taken, _⟩ := (parse_ok_iff domain text record warnings).mp read
      exact ⟨isVersion, d, taken⟩
    · rintro ⟨isVersion, d, taken⟩
      exact ⟨_, _, (parse_ok_iff domain text _ _).mpr ⟨isVersion, d, taken, rfl, rfl⟩⟩
  · intro error
    rw [parse_error_iff, takeTerms_error_iff]

end SenderAudit.Spf
