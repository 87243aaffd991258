import Mathlib.Algebra.Order.BigOperators.Group.List
import Mathlib.Algebra.Ring.Int.Defs
import SenderAudit.Scorecard.Advice

/-!
Points and advice. No criterion awards more than its share of the thirty points that each
category can reach, so a category with thirty points has earned all of them. Advice that
nothing needs to change is given then only; about the policy this is so for the words that a
policy can have.
-/
namespace SenderAudit.Scorecard

def Criterion.most : Criterion → Int
  | .keyPublished | .dmarcPolicy => 15
  | .spfPublished | .spfEnding | .keyStrength | .dmarcPublished => 10
  | .spfValid | .spfLookups | .severalKeys | .dmarcReporting => 5

theorem names_key_iff (c : Category) (criterion : Criterion) :
    c.Names criterion.key ↔ criterion.category = c := by
  cases c <;> cases criterion <;> decide +kernel

theorem award_eq_iff (earned : Bool) {points : Int} (worth : 0 < points) :
    award earned points = points ↔ earned = true := by
  cases earned with
  | false =>
      simp only [award, Bool.false_eq_true, ↓reduceIte, iff_false]
      omega
  | true => simp [award]

theorem award_range (earned : Bool) {points : Int} (worth : 0 < points) :
    0 ≤ award earned points ∧ award earned points ≤ points := by
  cases earned <;> simp [award] <;> omega

theorem endingPoints_eq_iff (q : Option Spf.Qualifier) :
    endingPoints q = 10 ↔ q = some .fail := by
  rcases q with _ | _ | _ | _ | _ <;> decide

theorem endingPoints_range (q : Option Spf.Qualifier) :
    -10 ≤ endingPoints q ∧ endingPoints q ≤ 10 := by
  rcases q with _ | _ | _ | _ | _ <;> decide

theorem policyPoints_range (policy : Option String) :
    0 ≤ policyPoints policy ∧ policyPoints policy ≤ 15 := by
  unfold policyPoints
  split <;> decide

theorem policyPoints_eq_iff (policy : Option String) :
    policyPoints policy = 15 ↔ policy = some "reject" := by
  unfold policyPoints
  split
  · decide
  · decide
  · rename_i notReject _
    exact ⟨fun most => absurd most (by decide), fun reject => absurd reject notReject⟩

namespace Evidence

variable (e : Evidence)

def Earns : Criterion → Prop
  | .spfPublished => e.spf.published = true
  | .spfValid => e.spf.valid = true
  | .spfEnding => e.spf.qualifier = some .fail
  | .spfLookups => e.spf.valid = true ∧ e.withinBudget = true
  | .keyPublished => e.validKeys ≠ []
  | .keyStrength => e.hasStrongKey = true
  | .severalKeys => 2 ≤ e.validKeys.length
  | .dmarcPublished => e.dmarc.published = true
  | .dmarcPolicy => e.policy = some "reject"
  | .dmarcReporting => e.dmarc.reported = true

theorem points_eq_most_iff (c : Criterion) : e.points c = c.most ↔ e.Earns c := by
  cases c with
  | spfPublished => exact award_eq_iff _ (by decide)
  | spfValid => exact award_eq_iff _ (by decide)
  | spfEnding => exact endingPoints_eq_iff _
  | spfLookups => exact (award_eq_iff _ (by decide)).trans Bool.and_eq_true_iff
  | keyPublished => exact (award_eq_iff _ (by decide)).trans (by simp [Earns])
  | keyStrength => exact award_eq_iff _ (by decide)
  | severalKeys => exact (award_eq_iff _ (by decide)).trans decide_eq_true_iff
  | dmarcPublished => exact award_eq_iff _ (by decide)
  | dmarcPolicy => exact policyPoints_eq_iff _
  | dmarcReporting => exact award_eq_iff _ (by decide)

theorem points_le_most (c : Criterion) : e.points c ≤ c.most := by
  cases c with
  | spfEnding => exact (endingPoints_range _).2
  | dmarcPolicy => exact (policyPoints_range _).2
  | _ => exact (award_range _ (by decide)).2

-- Only the ending can count against a domain.
theorem points_nonneg (c : Criterion) (notEnding : c ≠ .spfEnding) : 0 ≤ e.points c := by
  cases c with
  | spfEnding => exact absurd rfl notEnding
  | dmarcPolicy => exact (policyPoints_range _).1
  | _ => exact (award_range _ (by decide)).1

theorem sum_points_le (cs : List Criterion) :
    (cs.map e.points).sum ≤ (cs.map Criterion.most).sum :=
  List.sum_le_sum fun c _ => e.points_le_most c

/-- Criteria together award the most that they can if each is earned. -/
theorem sum_points_eq_iff (cs : List Criterion) :
    (cs.map e.points).sum = (cs.map Criterion.most).sum ↔ ∀ c ∈ cs, e.Earns c := by
  induction cs with
  | nil => simp
  | cons c rest ih =>
      have first := e.points_le_most c
      have others := e.sum_points_le rest
      rw [List.map_cons, List.map_cons, List.sum_cons, List.sum_cons, List.forall_mem_cons, ← ih,
        ← points_eq_most_iff]
      omega

theorem sumOver_eq (c : Category) :
    e.sumOver c = ((Criterion.all.filter (·.category = c)).map e.points).sum := by
  have own : e.details.filter (fun entry => c.Names entry.1) =
      (Criterion.all.filter (·.category = c)).map fun criterion =>
        (criterion.key, e.points criterion) := by
    rw [details, List.filter_map]
    congr 2
    funext criterion
    exact decide_eq_decide.mpr (names_key_iff c criterion)
  rw [sumOver, own, List.map_map]
  rfl

theorem sum_most (c : Category) :
    ((Criterion.all.filter (·.category = c)).map Criterion.most).sum = 30 := by
  cases c <;> decide

theorem mem_all (c : Criterion) : c ∈ Criterion.all := by
  cases c <;> decide

theorem sumOver_le (c : Category) : e.sumOver c ≤ 30 := by
  rw [sumOver_eq, ← sum_most c]
  exact e.sum_points_le _

theorem sumOver_eq_iff (c : Category) :
    e.sumOver c = 30 ↔ ∀ criterion : Criterion, criterion.category = c → e.Earns criterion := by
  rw [sumOver_eq, ← sum_most c, sum_points_eq_iff]
  simp [mem_all]

-- No category reaches beyond its cap.
theorem score_eq (c : Category) : e.score c = max 0 (e.sumOver c) := by
  have most := e.sumOver_le c
  have capped : 30 ≤ c.cap := by cases c <;> decide
  rw [score]
  omega

theorem score_range (c : Category) : 0 ≤ e.score c ∧ e.score c ≤ 30 := by
  have most := e.sumOver_le c
  rw [score_eq]
  omega

theorem score_eq_thirty_iff (c : Category) :
    e.score c = 30 ↔ ∀ criterion : Criterion, criterion.category = c → e.Earns criterion := by
  rw [← sumOver_eq_iff, score_eq]
  omega

theorem total_eq : e.total = e.score .spf + e.score .dkim + e.score .dmarc := by
  have unfolded : e.total = e.score .spf + (e.score .dkim + (e.score .dmarc + 0)) := rfl
  omega

theorem total_le_of_score_le (c : Category) (most : Int) (few : e.score c ≤ most) :
    e.total ≤ most + 60 := by
  have spf := e.score_range .spf
  have dkim := e.score_range .dkim
  have dmarc := e.score_range .dmarc
  rw [total_eq]
  cases c <;> omega

theorem total_le : e.total ≤ 90 :=
  e.total_le_of_score_le .spf 30 (e.score_range .spf).2

theorem total_eq_ninety_iff : e.total = 90 ↔ ∀ criterion, e.Earns criterion := by
  have spf := e.score_range .spf
  have dkim := e.score_range .dkim
  have dmarc := e.score_range .dmarc
  have each : e.total = 90 ↔ ∀ c, e.score c = 30 := by
    rw [total_eq]
    constructor
    · intro total c
      cases c <;> omega
    · intro thirty
      rw [thirty .spf, thirty .dkim, thirty .dmarc]
      rfl
  rw [each]
  constructor
  · intro thirty criterion
    exact (e.score_eq_thirty_iff _).mp (thirty criterion.category) criterion rfl
  · intro earns c
    exact (e.score_eq_thirty_iff c).mpr fun criterion _ => earns criterion

/-! What single findings mean for a category. -/

theorem sumOver_spf : e.sumOver .spf = e.points .spfEnding + e.points .spfPublished +
    e.points .spfLookups + e.points .spfValid := by
  have unfolded : e.sumOver .spf = e.points .spfEnding + (e.points .spfPublished +
      (e.points .spfLookups + (e.points .spfValid + 0))) := e.sumOver_eq .spf
  omega

theorem sumOver_dkim : e.sumOver .dkim =
    e.points .keyPublished + e.points .keyStrength + e.points .severalKeys := by
  have unfolded : e.sumOver .dkim = e.points .keyPublished + (e.points .keyStrength +
      (e.points .severalKeys + 0)) := e.sumOver_eq .dkim
  omega

theorem sumOver_dmarc : e.sumOver .dmarc =
    e.points .dmarcPublished + e.points .dmarcPolicy + e.points .dmarcReporting := by
  have unfolded : e.sumOver .dmarc = e.points .dmarcPublished + (e.points .dmarcPolicy +
      (e.points .dmarcReporting + 0)) := e.sumOver_eq .dmarc
  omega

theorem score_spf_valid (published : e.spf.published = true) (valid : e.spf.valid = true)
    (within : e.withinBudget = true) : 10 ≤ e.score .spf := by
  have first : e.points .spfPublished = 10 := (e.points_eq_most_iff _).mpr published
  have second : e.points .spfValid = 5 := (e.points_eq_most_iff _).mpr valid
  have third : e.points .spfLookups = 5 := (e.points_eq_most_iff _).mpr ⟨valid, within⟩
  have ending : -10 ≤ e.points .spfEnding := (endingPoints_range _).1
  rw [score_eq, sumOver_spf]
  omega

theorem score_spf_invalid (invalid : e.spf.valid = false) : e.score .spf ≤ 20 := by
  have unearned : e.points .spfValid = 0 := by rw [points, award, invalid]; rfl
  have lookups : e.points .spfLookups = 0 := by rw [points, award, invalid]; rfl
  have published : e.points .spfPublished ≤ 10 := e.points_le_most _
  have ending : e.points .spfEnding ≤ 10 := e.points_le_most _
  rw [score_eq, sumOver_spf]
  omega

theorem score_dkim_found (found : e.validKeys ≠ []) : 15 ≤ e.score .dkim := by
  have published : e.points .keyPublished = 15 := (e.points_eq_most_iff _).mpr found
  have strength := e.points_nonneg .keyStrength (by decide)
  have several := e.points_nonneg .severalKeys (by decide)
  rw [score_eq, sumOver_dkim]
  omega

theorem score_dkim_none (none : e.validKeys = []) : e.score .dkim = 0 := by
  rw [score_eq, sumOver_dkim, points, points, points, hasStrongKey, none]
  rfl

theorem score_dmarc_published (published : e.dmarc.published = true) : 10 ≤ e.score .dmarc := by
  have found : e.points .dmarcPublished = 10 := (e.points_eq_most_iff _).mpr published
  have policy := e.points_nonneg .dmarcPolicy (by decide)
  have reporting := e.points_nonneg .dmarcReporting (by decide)
  rw [score_eq, sumOver_dmarc]
  omega

theorem score_dmarc_invalid (invalid : e.dmarc.valid = false) : e.score .dmarc ≤ 15 := by
  have unearned : e.points .dmarcPolicy = 0 := by rw [points, policy, invalid]; rfl
  have published : e.points .dmarcPublished ≤ 10 := e.points_le_most _
  have reporting : e.points .dmarcReporting ≤ 5 := e.points_le_most _
  rw [score_eq, sumOver_dmarc]
  omega

end Evidence

/-! When advice is that nothing needs to change. -/

theorem SpfAdvice.recommendation_eq_iff (advice : SpfAdvice) :
    advice.recommendation = "no change needed" ↔ advice = .sound := by
  cases advice <;> simp [recommendation]

theorem DkimAdvice.recommendation_eq_iff (advice : DkimAdvice) :
    advice.recommendation = "no change needed" ↔ ∃ count, advice = .sound count := by
  cases advice <;> simp [recommendation]

theorem DmarcAdvice.recommendation_eq_iff (advice : DmarcAdvice) :
    advice.recommendation = "no change needed" ↔ advice = .sound := by
  cases advice <;> simp [recommendation]

namespace Evidence

variable (e : Evidence)

theorem spfAdvice_sound_iff : e.spfAdvice = .sound ↔
    e.spf.published = true ∧ e.spf.valid = true ∧ e.spf.qualifier = some .fail ∧
      e.withinBudget = true := by
  unfold spfAdvice
  cases e.spf.published <;> cases e.spf.valid <;> cases e.withinBudget <;>
    rcases e.spf.qualifier with _ | _ | _ | _ | _ <;> simp

/-- The advice on senders is sound exactly if nothing is left to gain. -/
theorem spf_recommendation_iff :
    e.recommendation .spf = "no change needed" ↔ e.score .spf = 30 := by
  rw [recommendation, SpfAdvice.recommendation_eq_iff, spfAdvice_sound_iff, score_eq_thirty_iff]
  constructor
  · rintro ⟨published, valid, fails, within⟩ criterion isSpf
    cases criterion with
    | spfPublished => exact published
    | spfValid => exact valid
    | spfEnding => exact fails
    | spfLookups => exact ⟨valid, within⟩
    | _ => cases isSpf
  · intro earns
    exact ⟨earns .spfPublished rfl, earns .spfValid rfl, earns .spfEnding rfl,
      (earns .spfLookups rfl).2⟩

theorem dkimAdvice_sound (count : Nat) (sound : e.dkimAdvice = .sound count) :
    e.hasStrongKey = true ∧ 2 ≤ e.validKeys.length := by
  unfold dkimAdvice at sound
  split at sound
  · cases sound
  · split at sound
    · split at sound
      · cases sound
      · split at sound <;> cases sound
    · rename_i strong
      split at sound
      · cases sound
      · rename_i several
        exact ⟨by simpa using strong, Nat.not_lt.mp several⟩

theorem dkim_recommendation (advised : e.recommendation .dkim = "no change needed") :
    e.score .dkim = 30 := by
  obtain ⟨count, sound⟩ := (DkimAdvice.recommendation_eq_iff _).mp advised
  obtain ⟨strong, several⟩ := e.dkimAdvice_sound count sound
  have nonempty : e.validKeys ≠ [] := by
    intro none
    rw [none] at several
    cases several
  apply (e.score_eq_thirty_iff .dkim).mpr
  intro criterion isDkim
  cases criterion with
  | keyPublished => exact nonempty
  | keyStrength => exact strong
  | severalKeys => exact several
  | _ => cases isDkim

theorem dmarcAdvice_sound (sound : e.dmarcAdvice = .sound) :
    e.dmarc.published = true ∧ e.dmarc.reported = true ∧ e.policy ≠ none ∧
      e.policy ≠ some "none" ∧ e.policy ≠ some "quarantine" := by
  unfold dmarcAdvice at sound
  split at sound
  · cases sound
  · rename_i published
    split at sound
    · cases sound
    · cases sound
    · cases sound
    · rename_i absent notNone notQuarantine
      split at sound
      · cases sound
      · rename_i reported
        exact ⟨by simpa using published, by simpa using reported, absent, notNone,
          notQuarantine⟩

end Evidence

end SenderAudit.Scorecard
