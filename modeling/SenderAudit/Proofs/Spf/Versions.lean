import SenderAudit.Proofs.Spf.Acceptance
import SenderAudit.Proofs.Spf.Findings
import SenderAudit.Proofs.Versions

/-!
The version of a record, told in two ways. An answer is chosen as a record by what it opens with
and what comes next; it is read as one by its first word. Both come to the same, so nothing that
is chosen is refused for its version.
-/
namespace SenderAudit.Spf

theorem version_solid : ∀ c ∈ version, Text.isBlank c = false := by
  have solid : version.any Text.isBlank = false := by decide
  exact fun c member => Bool.eq_false_iff.mpr (List.any_eq_false.mp solid c member)

theorem isRecord_iff (s : List Char) :
    isRecord s = true ↔ Text.OpensWith version Text.isBlank s :=
  (Text.opensWith_iff_take version (by decide) Text.isBlank s).symm

theorem isRecord_trim (text : String) :
    isRecord (Text.trim text.toList) = true ↔ IsVersion (firstWord text) := by
  rw [isRecord_iff, Text.opensWith_trim version version_solid]
  rfl

theorem invalidVersion_iff (domain text found : String) :
    Record.parse domain text = .error (.invalidVersion found) ↔
      ¬ IsVersion (firstWord text) ∧ found = String.ofList (firstWord text) := by
  rw [parse_error_iff, takeTerms_error_iff]
  constructor
  · rintro (⟨other, same⟩ | ⟨_, before, term, after, _, _, breaks⟩)
    · exact ⟨other, ParseError.invalidVersion.inj same⟩
    · cases breaks
  · rintro ⟨other, rfl⟩
    exact .inl ⟨other, rfl⟩

theorem isRecord_iff_version (domain text : String) :
    isRecord (Text.trim text.toList) = true ↔
      ∀ found, Record.parse domain text ≠ .error (.invalidVersion found) := by
  rw [isRecord_trim]
  constructor
  · intro isVersion found refused
    exact ((invalidVersion_iff domain text found).mp refused).1 isVersion
  · intro accepted
    by_contra other
    exact accepted _ ((invalidVersion_iff domain text _).mpr ⟨other, rfl⟩)

/-- Every candidate has the version that reading requires. -/
theorem candidate_version (domain : String) (answers : List String) (text : List Char)
    (candidate : text ∈ candidates answers) (found : String) :
    Record.parse domain (String.ofList text) ≠ .error (.invalidVersion found) := by
  obtain ⟨isTrimmed, chosen⟩ := List.mem_filter.mp candidate
  obtain ⟨answer, _, rfl⟩ := List.mem_map.mp isTrimmed
  apply (isRecord_iff_version domain _).mp
  rwa [String.toList_ofList, Text.trim_trim]

theorem problemsIn_version (name : DomainName) (answer : Except LookupFailure (List String))
    (found : String) : .badRecord (.invalidVersion found) ∉ problemsIn name answer := by
  cases answer with
  | error failure =>
      simp only [problemsIn, List.mem_singleton]
      split <;> rintro ⟨⟩
  | ok answers =>
      cases texts : candidates answers with
      | nil => simp [problemsIn, texts]
      | cons text others =>
          have accepted := candidate_version name.text answers text (by simp [texts]) found
          simp only [problemsIn, texts, List.mem_append]
          rintro (several | bad)
          · split at several
            · cases several
            · cases List.mem_singleton.mp several
          · split at bad
            · rename_i error refused
              rw [← Problem.badRecord.inj (List.mem_singleton.mp bad)] at refused
              exact accepted refused
            · cases bad

theorem Origin.version {resolver : Resolver} {limits : Limits} {node : Outcome}
    (origin : Origin resolver limits node) (found : String) :
    .badRecord (.invalidVersion found) ∉ node.ownProblems := by
  obtain ⟨opening, short, notes, opens, accounts⟩ := origin.accounts
  rw [accounts.own, List.mem_append]
  rintro (early | late)
  · cases opens with
    | unread p cause =>
        obtain rfl := List.mem_singleton.mp early
        rcases cause with refused | timed
        · cases refused
        · cases timed
    | read name => exact problemsIn_version name _ found early
  · obtain ⟨lead, _, same⟩ := List.mem_map.mp late
    cases same

/-- Texts are chosen as records exactly if reading them, with blanks around them or without, finds
the version. So no node of an evaluation has an error of its own, or one from below it, that a
record must start with the version. -/
theorem versions_agree :
    (∀ domain text, isRecord (Text.trim text.toList) = true ↔
      ∀ found, Record.parse domain text ≠ .error (.invalidVersion found)) ∧
    ∀ resolver limits domain depth visited spent,
      ∀ node ∈ (evaluateFrom resolver limits domain depth visited spent).1.nodes,
        ∀ f ∈ node.problems, ∀ found, f.cause ≠ .badRecord (.invalidVersion found) := by
  refine ⟨isRecord_iff_version, ?_⟩
  intro resolver limits domain depth visited spent node inTree f reported found isVersion
  have origins := evaluateFrom_origin resolver limits domain depth visited spent
  have below : ∀ other ∈ node.nodes, Origin resolver limits other := fun other inside =>
    origins other (Outcome.nodes_of_node _ node inTree other inside)
  obtain ⟨source, inside, owns⟩ := problems_owned below f reported
  exact (below source inside).version found (isVersion ▸ owns)

/-- The version between a no-break space and an ideographic space, and a term that breaks a rule. -/
def spacedRecord : String := "\u00A0V=SPF1\u3000x:y"

def accentedRecord : String := "v=spf1\u00E9 -all"

def spacedZone : Resolver := fun _ =>
  ⟨.ok [accentedRecord, spacedRecord], 0⟩

theorem versions_agree_at_spaces :
    isRecord (Text.trim spacedRecord.toList) = true ∧
    (∀ found, Record.parse "a.example" spacedRecord ≠ .error (.invalidVersion found)) ∧
    isRecord (Text.trim accentedRecord.toList) = false ∧
    (∃ found, Record.parse "a.example" accentedRecord = .error (.invalidVersion found)) ∧
    (evaluateFrom spacedZone {} "a.example" 0 [] 0).1.problems =
      [.own (.badRecord (.unknownMechanism "x:y"))] ∧
    ∀ f ∈ (evaluateFrom spacedZone {} "a.example" 0 [] 0).1.problems, ∀ found,
      f.cause ≠ .badRecord (.invalidVersion found) := by
  obtain ⟨agree, never⟩ := versions_agree
  have chosen : isRecord (Text.trim spacedRecord.toList) = true := by decide +kernel
  have passedOver : isRecord (Text.trim accentedRecord.toList) = false := by decide +kernel
  refine ⟨chosen, (agree _ _).mp chosen, passedOver, ?_, by decide +kernel,
    never _ _ _ _ _ _ _ (Outcome.self_mem_nodes _)⟩
  have refused := mt (agree "a.example" accentedRecord).mpr (by simp [passedOver])
  simpa using refused

end SenderAudit.Spf
