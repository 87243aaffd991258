import Mathlib.Data.List.Perm.Subperm
import SenderAudit.Proofs.LookupPoints
import SenderAudit.Proofs.Points

/-!
Points and the keys that were found. The points of a category are those whose names begin
with its own, and only the points for keys depend on the keys: not on their order, and with
another key at hand no criterion awards less.
-/
namespace SenderAudit.Scorecard

theorem award_mono (earned earned' : Bool) {points : Int} (worth : 0 < points)
    (keeps : earned = true → earned' = true) : award earned points ≤ award earned' points := by
  cases earned with
  | false => exact (award_range earned' worth).1
  | true => rw [keeps rfl]

namespace Evidence

variable (e : Evidence)

theorem lookup_criteria (cs : List Criterion) (key : String) :
    (cs.map fun c => (c.key, e.points c)).lookup key =
      (cs.find? (key == ·.key)).map e.points := by
  induction cs with
  | nil => rfl
  | cons c rest ih =>
      cases same : key == c.key with
      | true => simp [List.lookup_cons, same]
      | false => simpa [List.lookup_cons, same] using ih

def withKeys (keys : List KeyFacts) : Evidence :=
  { e with dkim := keys }

variable {e} {xs ys : List KeyFacts}

theorem points_withKeys_of_ne (c : Criterion) (other : c.category ≠ .dkim) :
    (e.withKeys xs).points c = (e.withKeys ys).points c := by
  cases c with
  | keyPublished => exact absurd rfl other
  | keyStrength => exact absurd rfl other
  | severalKeys => exact absurd rfl other
  | _ => rfl

theorem validKeys_subperm (within : xs.Subperm ys) :
    (e.withKeys xs).validKeys.Subperm (e.withKeys ys).validKeys :=
  List.Subperm.filter KeyFacts.valid within

theorem points_withKeys_mono (within : xs.Subperm ys) (c : Criterion) :
    (e.withKeys xs).points c ≤ (e.withKeys ys).points c := by
  have valid := validKeys_subperm (e := e) within
  cases c with
  | keyPublished =>
      apply award_mono _ _ (by decide)
      simp only [Bool.not_eq_true', List.isEmpty_eq_false_iff]
      intro found none
      rw [none, List.subperm_nil] at valid
      exact found valid
  | keyStrength =>
      apply award_mono _ _ (by decide)
      simp only [hasStrongKey, List.any_eq_true]
      rintro ⟨key, found, strong⟩
      exact ⟨key, valid.subset found, strong⟩
  | severalKeys =>
      apply award_mono _ _ (by decide)
      simp only [decide_eq_true_eq]
      exact fun several => Nat.le_trans several valid.length_le
  | _ => exact Int.le_refl _

theorem score_withKeys_mono (within : xs.Subperm ys) (c : Category) :
    (e.withKeys xs).score c ≤ (e.withKeys ys).score c := by
  have sum : (e.withKeys xs).sumOver c ≤ (e.withKeys ys).sumOver c := by
    rw [sumOver_eq, sumOver_eq]
    exact List.sum_le_sum fun criterion _ => points_withKeys_mono within criterion
  rw [score_eq, score_eq]
  omega

theorem total_withKeys_mono (within : xs.Subperm ys) :
    (e.withKeys xs).total ≤ (e.withKeys ys).total := by
  have spf := score_withKeys_mono (e := e) within .spf
  have dkim := score_withKeys_mono (e := e) within .dkim
  have dmarc := score_withKeys_mono (e := e) within .dmarc
  rw [total_eq, total_eq]
  omega

-- Each order of the keys has no fewer points than the other.
theorem points_withKeys_perm (order : ys.Perm xs) :
    (e.withKeys ys).points = (e.withKeys xs).points := by
  funext c
  exact Int.le_antisymm (points_withKeys_mono order.subperm c)
    (points_withKeys_mono order.symm.subperm c)

theorem lookup_withKeys_mono (within : xs.Subperm ys) (key : String) (points : Int)
    (awarded : (e.withKeys xs).details.lookup key = some points) :
    ∃ more, (e.withKeys ys).details.lookup key = some more ∧ points ≤ more := by
  rw [details, lookup_criteria] at awarded ⊢
  obtain ⟨c, found, rfl⟩ := Option.map_eq_some_iff.mp awarded
  exact ⟨_, by rw [found]; rfl, points_withKeys_mono within c⟩

theorem lookup_withKeys_of_ne (c : Category) (other : c ≠ .dkim) (key : String)
    (named : c.Names key) :
    (e.withKeys ys).details.lookup key = (e.withKeys xs).details.lookup key := by
  rw [details, details, lookup_criteria, lookup_criteria]
  cases found : Criterion.all.find? (key == ·.key) with
  | none => rfl
  | some criterion =>
      have hit := List.find?_some found
      have isKey : key = criterion.key := beq_iff_eq.mp hit
      rw [isKey, names_key_iff] at named
      exact congrArg some (points_withKeys_of_ne criterion (named ▸ other))

end Evidence

/-- Points for keys depend on which keys there are, and not on their order. Another key
takes no points, and changes nothing about the other categories. -/
theorem keys_scored (e : Evidence) (xs ys : List KeyFacts) :
    (ys.Perm xs →
      (e.withKeys ys).details = (e.withKeys xs).details ∧
      (∀ c, (e.withKeys ys).score c = (e.withKeys xs).score c) ∧
      (e.withKeys ys).total = (e.withKeys xs).total) ∧
    (xs.Subperm ys →
      (∀ key, Category.dkim.Names key → ∀ points,
        (e.withKeys xs).details.lookup key = some points →
          ∃ more, (e.withKeys ys).details.lookup key = some more ∧ points ≤ more) ∧
      (e.withKeys xs).score .dkim ≤ (e.withKeys ys).score .dkim ∧
      (e.withKeys xs).total ≤ (e.withKeys ys).total ∧
      ∀ c ≠ Category.dkim,
        (∀ key, c.Names key →
          (e.withKeys ys).details.lookup key = (e.withKeys xs).details.lookup key) ∧
        (e.withKeys ys).reason c = (e.withKeys xs).reason c ∧
        (e.withKeys ys).recommendation c = (e.withKeys xs).recommendation c) := by
  constructor
  · intro order
    have same := Evidence.points_withKeys_perm (e := e) order
    have details : (e.withKeys ys).details = (e.withKeys xs).details := by
      rw [Evidence.details, Evidence.details, same]
    have scores : ∀ c, (e.withKeys ys).score c = (e.withKeys xs).score c := by
      intro c
      rw [Evidence.score, Evidence.score, Evidence.sumOver, Evidence.sumOver, details]
    refine ⟨details, scores, ?_⟩
    rw [Evidence.total_eq, Evidence.total_eq, scores, scores, scores]
  · intro within
    refine ⟨fun key _ points => Evidence.lookup_withKeys_mono within key points,
      Evidence.score_withKeys_mono within .dkim, Evidence.total_withKeys_mono within, ?_⟩
    intro c other
    refine ⟨fun key named => Evidence.lookup_withKeys_of_ne c other key named, ?_⟩
    cases c with
    | dkim => exact absurd rfl other
    | spf => exact ⟨rfl, rfl⟩
    | dmarc => exact ⟨rfl, rfl⟩

def shortKey : KeyFacts := ⟨"s1", true, some "rsa", some 1024, true⟩
def modernKey : KeyFacts := ⟨"s2", true, some "ed25519", some 256, false⟩
def revokedKey : KeyFacts := ⟨"s3", false, some "rsa", none, false⟩

def senderEvidence : Evidence where
  spf := ⟨true, true, some .pass, 1, none⟩
  dkim := []
  dmarc := ⟨false, false, none, none, some "no DMARC record found", false⟩
  maxIncludes := 10

theorem modernKey_scored :
    let few := senderEvidence.withKeys [revokedKey, shortKey]
    let swapped := senderEvidence.withKeys [shortKey, revokedKey]
    let more := senderEvidence.withKeys [shortKey, modernKey, revokedKey]
    swapped.details = few.details ∧ swapped.total = few.total ∧
      few.score .dkim = 15 ∧ more.score .dkim = 30 ∧ few.score .dkim ≤ more.score .dkim ∧
      few.total ≤ more.total ∧
      (∃ points, more.details.lookup "dkim.multiple_selectors" = some points ∧ 0 ≤ points) ∧
      more.details.lookup "spf.all" = few.details.lookup "spf.all" ∧
      more.reason .spf = few.reason .spf := by
  have order : [shortKey, revokedKey].Perm [revokedKey, shortKey] := List.Perm.swap _ _ _
  have within : [revokedKey, shortKey].Subperm [shortKey, modernKey, revokedKey] :=
    order.symm.subperm.trans ((List.Sublist.refl [revokedKey]).cons modernKey |>.cons_cons shortKey
      |>.subperm)
  obtain ⟨details, _, total⟩ := (keys_scored senderEvidence _ _).1 order
  obtain ⟨entries, score, totals, others⟩ := (keys_scored senderEvidence _ _).2 within
  obtain ⟨same, reason, _⟩ := others .spf (by decide)
  exact ⟨details, total, by decide, by decide, score, totals,
    entries "dkim.multiple_selectors" (by decide +kernel) 0 (by decide), same "spf.all"
      (by decide +kernel), reason⟩

end SenderAudit.Scorecard
