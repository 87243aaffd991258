import SenderAudit.Proofs.StoredSelectors

/-!
The order of stored selectors. It is the order in which their normal forms were first given,
however the calls group them, so later calls leave what is stored in its place.
-/
namespace SenderAudit

def normalSelectors (selectors : List String) : List String :=
  selectors.filterMap normalSelector?

theorem addSelector_eraseDups (forms : List String) (selector : String) :
    addSelector forms.eraseDups selector =
      (forms ++ (normalSelector? selector).toList).eraseDups := by
  rcases addSelector_cases forms.eraseDups selector with ⟨same, known⟩ | ⟨s, form, fresh, added⟩
  · have nothing : (normalSelector? selector).toList.removeAll forms = [] := by
      cases form : normalSelector? selector with
      | none => rfl
      | some s =>
          have inForms : s ∈ forms := List.mem_eraseDups.mp (known s form)
          simp [List.removeAll, inForms]
    rw [same, List.eraseDups_append, nothing, List.eraseDups_nil, List.append_nil]
  · have notInForms : s ∉ forms := mt List.mem_eraseDups.mpr fresh
    have alone : [s].removeAll forms = [s] := by simp [List.removeAll, notInForms]
    rw [added, form, Option.toList_some, List.eraseDups_append, alone]
    rfl

theorem addSelectors_eraseDups (forms more : List String) :
    addSelectors forms.eraseDups more = (forms ++ normalSelectors more).eraseDups := by
  induction more generalizing forms with
  | nil => rw [normalSelectors, List.filterMap_nil, List.append_nil]; rfl
  | cons selector rest ih =>
      have split : normalSelectors (selector :: rest) =
          (normalSelector? selector).toList ++ normalSelectors rest := by
        cases form : normalSelector? selector <;> simp [normalSelectors, form]
      have step := ih (forms ++ (normalSelector? selector).toList)
      rw [← addSelector_eraseDups, List.append_assoc, ← split] at step
      exact step

theorem storedSelectors_eraseDups (calls : List SelectorCall) :
    storedSelectors calls = (normalSelectors (givenSelectors calls)).eraseDups := by
  rw [storedSelectors_eq]
  exact addSelectors_eraseDups [] _

theorem eraseDups_prefix {forms more : List String} (first : forms <+: more) :
    forms.eraseDups <+: more.eraseDups := by
  obtain ⟨later, rfl⟩ := first
  rw [List.eraseDups_append]
  exact List.prefix_append _ _

theorem storedSelectors_mono {before after : List SelectorCall} (first : before <+: after) :
    storedSelectors before <+: storedSelectors after := by
  obtain ⟨later, rfl⟩ := first
  have given : givenSelectors before <+: givenSelectors (before ++ later) := by
    rw [givenSelectors, givenSelectors, List.flatMap_append]
    exact List.prefix_append _ _
  rw [storedSelectors_eraseDups, storedSelectors_eraseDups]
  exact eraseDups_prefix (given.filterMap normalSelector?)

/-- What is stored are the first occurrences of the normal forms, in the order in which they
were given. -/
theorem storedSelectors_in_order (calls : List SelectorCall) :
    storedSelectors calls = (normalSelectors (givenSelectors calls)).eraseDups ∧
    (storedSelectors calls).Nodup ∧
    (∀ earlier later, earlier ≤ later →
      storedSelectors (calls.take earlier) <+: storedSelectors (calls.take later)) ∧
    ∀ grouped, givenSelectors grouped = givenSelectors calls →
      storedSelectors grouped = storedSelectors calls := by
  refine ⟨storedSelectors_eraseDups calls, storedSelectors_nodup calls, ?_, ?_⟩
  · intro earlier later isEarlier
    exact storedSelectors_mono (List.take_prefix_take_left isEarlier)
  · intro grouped same
    rw [storedSelectors_eq, storedSelectors_eq, same]

def mixedCalls : List SelectorCall :=
  [.one " S1. ", .several ["mail", "..", "s1"], .one " ", .several ["k1", "MAIL", "s1.."]]

theorem mixedCalls_in_order :
    storedSelectors mixedCalls = ["s1", "mail", "k1"] ∧ (storedSelectors mixedCalls).Nodup ∧
      storedSelectors (mixedCalls.take 1) <+: storedSelectors (mixedCalls.take 3) ∧
      storedSelectors [.several [" S1. ", "mail", "..", "s1", " ", "k1", "MAIL", "s1.."]] =
        storedSelectors mixedCalls := by
  obtain ⟨stored, once, grows, regrouped⟩ := storedSelectors_in_order mixedCalls
  refine ⟨?_, once, grows 1 3 (by decide), regrouped _ rfl⟩
  rw [stored]
  decide +kernel

end SenderAudit
