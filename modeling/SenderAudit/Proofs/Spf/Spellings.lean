import SenderAudit.Proofs.CanonicalReport
import SenderAudit.Proofs.NameCase
import SenderAudit.Proofs.Spf.Cycles

/-!
Domains in other spellings. A node is looked up and followed under the name that its domain
denotes, but entered, and reported when it fails, under its spelling: blanks around it, a final
dot and letter case are gone, while characters outside of ASCII stay. So an evaluation depends
on the spelling only where such characters are left.
-/
namespace SenderAudit

namespace DomainName

/-- A domain is spelled as the name that it denotes exactly if the part read as a name is in
ASCII. -/
theorem spelling_eq_iff (input : String) (name : DomainName) (isName : parse input = .ok name) :
    spelling input = name.text ↔ Idna.allAscii (core input) = true := by
  have inAscii := ((parse_ok_iff input name).mp isName).2
  constructor
  · intro same
    have lowered : Text.lower (core input) = name.text.toList := by
      rw [← same, spelling, String.toList_ofList]
    have ascii := canonical_ascii name
    rwa [← lowered, Idna.allAscii, Text.all_lower Idna.isAscii_caseless] at ascii
  · intro ascii
    rw [ascii?, if_pos ascii] at inAscii
    rw [spelling, Option.some.inj inAscii, String.ofList_toList]

end DomainName

namespace Spf

theorem settle_respelled (limits : Limits) (first second : String) (part : Part Outcome)
    (run run' : Outcome × Walk)
    (isRun : (some run.1, run.2) = settle limits none 0 first part)
    (isRun' : (some run'.1, run'.2) = settle limits none 0 second part) :
    run = ({ run'.1 with domain := run.1.domain }, run'.2) := by
  obtain ⟨outcome, walk⟩ := run
  obtain ⟨outcome', walk'⟩ := run'
  obtain ⟨_ | o, after⟩ := part
  · cases isRun
    cases isRun'
    rfl
  · cases isRun
    cases isRun'
    cases outcome
    rfl

section Evaluation

variable (resolver : Resolver) (limits : Limits) (domain : String) (depth : Nat)
  (visited : List String) (spent : Nat) (name : DomainName)

theorem evaluateFrom_refused (p : Problem)
    (refused : refusal? limits (limits.maxDepth + 1 - depth) visited spent (.ofText domain) =
      some p) :
    evaluateFrom resolver limits domain depth visited spent =
      (.failed (DomainName.spelling domain) p, { spent }) := by
  have run := evaluateFrom_eq resolver limits domain depth visited spent
  rw [visit_refused resolver limits _ visited none _ _ p refused] at run
  have outcome := Option.some.inj (congrArg Prod.fst run)
  exact Prod.ext outcome.symm (congrArg Prod.snd run).symm

theorem evaluateFrom_admitted (isName : DomainName.parse domain = .ok name)
    (shallow : depth ≤ limits.maxDepth) (fresh : DomainName.spelling domain ∉ visited)
    (affordable : spent ≤ limits.maxIncludes) :
    (some (evaluateFrom resolver limits domain depth visited spent).1,
        (evaluateFrom resolver limits domain depth visited spent).2) =
      settle limits none 0 (DomainName.spelling domain)
        (explore resolver limits (limits.maxDepth - depth) visited (deadlineAt limits none 0) name
          { spent }) := by
  rw [← evaluateFrom_eq, Nat.succ_sub shallow]
  exact visit_admitted resolver limits _ visited none (.ofText domain) { spent } name fresh
    affordable ((LookupFailure.parseName_ok domain name).mpr isName)

theorem evaluateFrom_asks_first (isName : DomainName.parse domain = .ok name)
    (shallow : depth ≤ limits.maxDepth) (fresh : DomainName.spelling domain ∉ visited)
    (affordable : spent ≤ limits.maxIncludes) :
    [name] <+: (evaluateFrom resolver limits domain depth visited spent).2.queried := by
  have named := (LookupFailure.parseName_ok domain name).mpr isName
  have run := evaluateFrom_eq resolver limits domain depth visited spent
  rw [Nat.succ_sub shallow] at run
  have asked := visit_asks_first resolver limits (limits.maxDepth - depth) visited none
    (.ofText domain) { spent } name fresh affordable named
  rwa [run, List.nil_append] at asked

theorem evaluateFrom_repeated (repeated : name.text ∈ visited) :
    evaluateFrom resolver limits name.text depth visited spent =
      (.failed name.text (if limits.maxDepth < depth then .tooDeep limits.maxDepth
        else .circular (visited ++ [name.text])), { spent }) := by
  have refused : refusal? limits (limits.maxDepth + 1 - depth) visited spent
      (.ofText name.text) = some (if limits.maxDepth < depth then .tooDeep limits.maxDepth
        else .circular (visited ++ [name.text])) := by
    simp only [refusal?, Target.ofText, DomainName.spelling_text, repeated, ↓reduceIte]
    by_cases deep : limits.maxDepth < depth
    · rw [if_pos (by omega), if_pos deep]
    · rw [if_neg (by omega), if_neg deep]
  rw [evaluateFrom_refused resolver limits name.text depth visited spent _ refused,
    DomainName.spelling_text]

theorem evaluateFrom_domain :
    (evaluateFrom resolver limits name.text depth visited spent).1.domain = name.text := by
  have run := evaluateFrom_eq resolver limits name.text depth visited spent
  rw [ofText_text] at run
  exact visit_domain resolver limits _ visited none name _ _ _ run

/-- An evaluation that is neither too deep nor closes a cycle comes to the same in every
spelling, but for the domain reported. -/
theorem evaluateFrom_respelled (isName : DomainName.parse domain = .ok name)
    (fresh : DomainName.spelling domain ∉ visited) (fresh' : name.text ∉ visited) :
    evaluateFrom resolver limits domain depth visited spent =
      ({ (evaluateFrom resolver limits name.text depth visited spent).1 with
          domain := (evaluateFrom resolver limits domain depth visited spent).1.domain },
        (evaluateFrom resolver limits name.text depth visited spent).2) := by
  have own : DomainName.spelling name.text ∉ visited := by
    rwa [DomainName.spelling_text]
  -- Neither check that is left looks at the spelling.
  have refusedAlike : ∀ p,
      refusal? limits (limits.maxDepth + 1 - depth) visited spent (.ofText domain) = some p →
      refusal? limits (limits.maxDepth + 1 - depth) visited spent (.ofText name.text) =
        some p := by
    intro p refused
    have named := (LookupFailure.parseName_ok domain name).mpr isName
    simpa only [refusal?, Target.ofText, fresh, own, named, LookupFailure.parseName_text,
      ↓reduceIte] using refused
  rcases refusal_cases limits (limits.maxDepth + 1 - depth) visited spent (.ofText domain) with
    ⟨p, refused⟩ | ⟨below, _, levels, _, affordable, _⟩
  · rw [evaluateFrom_refused resolver limits domain depth visited spent p refused,
      evaluateFrom_refused resolver limits name.text depth visited spent p
        (refusedAlike p refused)]
    rfl
  · have shallow : depth ≤ limits.maxDepth := by omega
    have spelled := evaluateFrom_admitted resolver limits domain depth visited spent name isName
      shallow fresh affordable
    have canonical := evaluateFrom_admitted resolver limits name.text depth visited spent name
      name.parse_text shallow own affordable
    exact settle_respelled limits _ _ _ _ _ spelled canonical

theorem evaluateFrom_domain_of_timely (isName : DomainName.parse domain = .ok name)
    (shallow : depth ≤ limits.maxDepth) (fresh : DomainName.spelling domain ∉ visited)
    (affordable : spent ≤ limits.maxIncludes)
    (timely : ¬ (evaluateFrom resolver limits domain depth visited spent).1.TimedOut) :
    (evaluateFrom resolver limits domain depth visited spent).1.domain = name.text := by
  have named := (LookupFailure.parseName_ok domain name).mpr isName
  have run := evaluateFrom_eq resolver limits domain depth visited spent
  rcases visit_cases resolver limits _ visited none _ _ _ _ run with
    ⟨p, refused, _⟩ | ⟨_, other, _, isOther, ⟨_, failed⟩ | ⟨_, _, course⟩⟩
  · rw [Nat.succ_sub shallow, refusal?_eq_none limits _ visited spent _ name fresh affordable
      named] at refused
    cases refused
  · exact absurd ⟨limits.timeoutMs, by rw [failed]; exact List.mem_singleton.mpr rfl⟩ timely
  · have isName' : Except.ok other = Except.ok name := isOther.symm.trans named
    cases isName'
    exact course.keeps.1

end Evaluation

/-- Where the evaluation of a domain is one of the name that it denotes. In ASCII it always is,
and a name visited beforehand is refused without a lookup, for the depth if that is passed and
else for the cycle. With other characters it is exactly if the node is entered and comes to an
end in time, under a spelling and a name not visited beforehand. Unless one of these was
visited, the lookups are the same and nothing differs but the domain reported. -/
theorem evaluateFrom_of_spelling (resolver : Resolver) (limits : Limits) (domain : String)
    (name : DomainName) (isName : DomainName.parse domain = .ok name) (depth : Nat)
    (visited : List String) (spent : Nat) :
    (Idna.allAscii (DomainName.core domain) = true →
      evaluateFrom resolver limits domain depth visited spent =
        evaluateFrom resolver limits name.text depth visited spent ∧
      (name.text ∈ visited →
        (evaluateFrom resolver limits domain depth visited spent).1 = .failed name.text
          (if limits.maxDepth < depth then .tooDeep limits.maxDepth
            else .circular (visited ++ [name.text])) ∧
        (evaluateFrom resolver limits domain depth visited spent).2.queried = [])) ∧
    (evaluateFrom resolver limits domain depth visited spent =
        evaluateFrom resolver limits name.text depth visited spent ↔
      Idna.allAscii (DomainName.core domain) = true ∨
        depth ≤ limits.maxDepth ∧ spent ≤ limits.maxIncludes ∧
          DomainName.spelling domain ∉ visited ∧ name.text ∉ visited ∧
          ¬ (evaluateFrom resolver limits name.text depth visited spent).1.TimedOut) ∧
    (DomainName.spelling domain ∉ visited → name.text ∉ visited →
      evaluateFrom resolver limits domain depth visited spent =
        ({ (evaluateFrom resolver limits name.text depth visited spent).1 with
            domain := (evaluateFrom resolver limits domain depth visited spent).1.domain },
          (evaluateFrom resolver limits name.text depth visited spent).2)) := by
  have named := (LookupFailure.parseName_ok domain name).mpr isName
  have alike : Idna.allAscii (DomainName.core domain) = true →
      evaluateFrom resolver limits domain depth visited spent =
        evaluateFrom resolver limits name.text depth visited spent := by
    intro ascii
    have same := (DomainName.spelling_eq_iff domain name isName).mpr ascii
    have target : Target.ofText domain = Target.ofText name.text := by
      rw [ofText_text, Target.ofText, same, named]
      rfl
    rw [evaluateFrom, evaluateFrom, target]
  have respelled := evaluateFrom_respelled resolver limits domain depth visited spent name isName
  refine ⟨fun ascii => ⟨alike ascii, fun repeated => ?_⟩, ⟨fun same => ?_, ?_⟩, respelled⟩
  · rw [alike ascii, evaluateFrom_repeated resolver limits depth visited spent name repeated]
    exact ⟨rfl, rfl⟩
  · by_cases ascii : Idna.allAscii (DomainName.core domain) = true
    · exact Or.inl ascii
    · have apart := mt (DomainName.spelling_eq_iff domain name isName).mp ascii
      -- The name itself is always reported under the name.
      have reported := evaluateFrom_domain resolver limits depth visited spent name
      rw [← same] at reported
      rcases refusal_cases limits (limits.maxDepth + 1 - depth) visited spent (.ofText domain)
        with ⟨p, refused⟩ | ⟨below, _, levels, fresh, affordable, _⟩
      · rw [evaluateFrom_refused resolver limits domain depth visited spent p refused] at reported
        exact absurd reported apart
      · have shallow : depth ≤ limits.maxDepth := by omega
        refine Or.inr ⟨shallow, affordable, fresh, fun repeated => ?_, fun timedOut => ?_⟩
        · -- The name would be looked up in the one spelling, and be refused in the other.
          have asked := evaluateFrom_asks_first resolver limits domain depth visited spent name
            isName shallow fresh affordable
          rw [same, evaluateFrom_repeated resolver limits depth visited spent name repeated]
            at asked
          exact List.not_mem_nil (asked.subset (List.mem_singleton.mpr rfl))
        · rw [← same] at timedOut
          have run := first_run resolver limits domain depth visited spent
          have failed := (entry_timedOut resolver limits _ _ (congrArg Prod.fst run) timedOut).2
          rw [failed] at reported
          exact absurd reported apart
  · rintro (ascii | ⟨shallow, affordable, fresh, fresh', timely⟩)
    · exact alike ascii
    · have same := respelled fresh fresh'
      have timely' : ¬ (evaluateFrom resolver limits domain depth visited spent).1.TimedOut := by
        rw [same]
        exact timely
      have reported := evaluateFrom_domain_of_timely resolver limits domain depth visited spent
        name isName shallow fresh affordable timely'
      have reported' := evaluateFrom_domain resolver limits depth visited spent name
      rw [same, reported]
      generalize evaluateFrom resolver limits name.text depth visited spent = run at reported'
      obtain ⟨outcome, walk⟩ := run
      rw [← reported']
      cases outcome
      rfl

def parkedZone : Resolver := fun name =>
  if name.text = "a.example" then ⟨.ok ["v=spf1 -all"], 1⟩
  else ⟨.error (.nameNotFound name.text), 0⟩

theorem parkedZone_of_spelling :
    DomainName.parse " A.Example. " = .ok plainName ∧
    (evaluateFrom parkedZone {} " A.Example. " 2 ["b.example", "a.example"] 1).1 =
      .failed "a.example" (.circular ["b.example", "a.example", "a.example"]) ∧
    (evaluateFrom parkedZone {} " A.Example. " 2 ["b.example", "a.example"] 1).2.queried = [] := by
  have isName : DomainName.parse " A.Example. " = .ok plainName := by decide +kernel
  have ascii : Idna.allAscii (DomainName.core " A.Example. ") = true := by decide +kernel
  have refused := ((evaluateFrom_of_spelling parkedZone {} " A.Example. " plainName isName 2
    ["b.example", "a.example"] 1).1 ascii).2 (by decide)
  exact ⟨isName, refused⟩

/-- The soft hyphen is dropped from a name, and stays in its spelling. -/
theorem softHyphen_slips_by :
    DomainName.parse "a\u00AD.example" = .ok plainName ∧
    (evaluateFrom parkedZone {} "a\u00AD.example" 0 ["a.example"] 0).1.valid = true ∧
    (evaluateFrom parkedZone {} "a\u00AD.example" 0 ["a.example"] 0).2.queried = [plainName] ∧
    (evaluateFrom parkedZone {} plainName.text 0 ["a.example"] 0).1 =
      .failed "a.example" (.circular ["a.example", "a.example"]) ∧
    (evaluateFrom parkedZone {} plainName.text 0 ["a.example"] 0).2.queried = [] := by
  have isName : DomainName.parse "a\u00AD.example" = .ok plainName := by decide +kernel
  have target : Target.ofText "a\u00AD.example" =
      ⟨DomainName.spelling "a\u00AD.example", .ok plainName⟩ := by
    rw [Target.ofText, (LookupFailure.parseName_ok _ _).mpr isName]
  have refused := evaluateFrom_repeated parkedZone {} 0 ["a.example"] 0 plainName (by decide)
  have found : (evaluateFrom parkedZone {} "a\u00AD.example" 0 ["a.example"] 0).1.valid = true ∧
      (evaluateFrom parkedZone {} "a\u00AD.example" 0 ["a.example"] 0).2.queried =
        [plainName] := by
    rw [evaluateFrom, target]
    decide +kernel
  refine ⟨isName, found.1, found.2, ?_⟩
  rw [refused]
  exact ⟨rfl, rfl⟩

end Spf

end SenderAudit
