import Mathlib.Data.List.Nodup
import SenderAudit.Audit
import SenderAudit.Proofs.Text

/-!
The selectors that calls store: the normal forms of those given, each of them once.
-/
namespace SenderAudit

inductive SelectorCall where
  | one (selector : String)
  | several (selectors : List String)

def SelectorCall.given : SelectorCall → List String
  | .one selector => [selector]
  | .several selectors => selectors

def SelectorCall.store (stored : List String) : SelectorCall → List String
  | .one selector => addSelector stored selector
  | .several selectors => addSelectors stored selectors

def givenSelectors (calls : List SelectorCall) : List String :=
  calls.flatMap SelectorCall.given

/-- What is stored after calls that start from no selectors. -/
def storedSelectors (calls : List SelectorCall) : List String :=
  calls.foldl SelectorCall.store []

theorem storedSelectors_eq (calls : List SelectorCall) :
    storedSelectors calls = addSelectors [] (givenSelectors calls) := by
  have each : SelectorCall.store = fun stored call => addSelectors stored call.given := by
    funext stored call
    cases call <;> rfl
  rw [storedSelectors, addSelectors, givenSelectors, List.foldl_flatMap, each]
  rfl

theorem addSelector_cases (stored : List String) (selector : String) :
    (addSelector stored selector = stored ∧
      ∀ s, normalSelector? selector = some s → s ∈ stored) ∨
    ∃ s, normalSelector? selector = some s ∧ s ∉ stored ∧
      addSelector stored selector = stored ++ [s] := by
  unfold addSelector
  cases form : normalSelector? selector with
  | none => exact Or.inl ⟨rfl, fun _ absent => nomatch absent⟩
  | some s =>
      by_cases known : s ∈ stored
      · refine Or.inl ⟨if_pos (List.contains_iff_mem.mpr known), ?_⟩
        rintro _ ⟨⟩
        exact known
      · refine Or.inr ⟨s, rfl, known, if_neg ?_⟩
        exact fun listed => known (List.contains_iff_mem.mp listed)

theorem addSelector_nodup (stored : List String) (selector : String) (once : stored.Nodup) :
    (addSelector stored selector).Nodup := by
  rcases addSelector_cases stored selector with ⟨same, _⟩ | ⟨s, _, fresh, added⟩
  · rwa [same]
  · rw [added, ← List.concat_eq_append]
    exact List.Nodup.concat fresh once

theorem mem_addSelector (stored : List String) (selector s : String) :
    s ∈ addSelector stored selector ↔ s ∈ stored ∨ normalSelector? selector = some s := by
  rcases addSelector_cases stored selector with ⟨same, known⟩ | ⟨form, normal, _, added⟩
  · rw [same]
    exact ⟨Or.inl, fun either => either.elim id (known s)⟩
  · rw [added, normal, List.mem_append, List.mem_singleton, Option.some_inj, eq_comm (a := s)]

theorem addSelectors_nodup (stored more : List String) (once : stored.Nodup) :
    (addSelectors stored more).Nodup := by
  induction more generalizing stored with
  | nil => exact once
  | cons selector rest ih => exact ih _ (addSelector_nodup stored selector once)

theorem mem_addSelectors (stored more : List String) (s : String) :
    s ∈ addSelectors stored more ↔
      s ∈ stored ∨ ∃ selector ∈ more, normalSelector? selector = some s := by
  induction more generalizing stored with
  | nil => simp [addSelectors]
  | cons selector rest ih =>
      have step := ih (addSelector stored selector)
      rw [mem_addSelector, or_assoc] at step
      simp only [List.mem_cons, exists_eq_or_imp]
      exact step

theorem storedSelectors_nodup (calls : List SelectorCall) : (storedSelectors calls).Nodup := by
  rw [storedSelectors_eq]
  exact addSelectors_nodup [] _ List.nodup_nil

theorem mem_storedSelectors (calls : List SelectorCall) (s : String) :
    s ∈ storedSelectors calls ↔
      ∃ selector ∈ givenSelectors calls, normalSelector? selector = some s := by
  rw [storedSelectors_eq, mem_addSelectors]
  exact or_iff_right List.not_mem_nil

theorem normalSelector_lower (selector s : String) (form : normalSelector? selector = some s)
    (c : Char) (inForm : c ∈ s.toList) : c.toLower = c := by
  unfold normalSelector? at form
  split at form
  · cases form
  · cases form
    rw [String.toList_ofList] at inForm
    obtain ⟨original, _, rfl⟩ := List.mem_map.mp inForm
    exact Text.toLower_toLower original

end SenderAudit
