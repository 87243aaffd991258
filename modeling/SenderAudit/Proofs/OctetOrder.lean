import Mathlib.Data.List.Lex
import Mathlib.Data.String.Basic
import SenderAudit.Proofs.Utf8

/-!
The order of texts by their characters is the order of their octets. Of two characters the lower
one has the lower octet where their octets first differ, and none begins with all of the other's;
so what follows them does not count.
-/
namespace SenderAudit.Utf8

/-- The last octets of a character: each holds six bits of its code point. -/
def trail : (count : Nat) → (n : Nat) → List UInt8
  | 0, _ => []
  | count + 1, n => UInt8.ofNat (n / 64 ^ count % 64 + 128) :: trail count n

def trailLength (n : Nat) : Nat :=
  if n ≤ 127 then 0 else if n ≤ 2047 then 1 else if n ≤ 65535 then 2 else 3

def lead (n : Nat) : Nat :=
  n / 64 ^ trailLength n +
    if n ≤ 127 then 0 else if n ≤ 2047 then 192 else if n ≤ 65535 then 224 else 240

theorem toNat_bound (c : Char) : c.toNat < 0x110000 := by
  rcases c.valid with below | above
  · exact Nat.lt_trans below (by decide)
  · exact above.2

theorem encodeChar_eq (c : Char) :
    String.utf8EncodeChar c =
      UInt8.ofNat (lead c.toNat) :: trail (trailLength c.toNat) c.toNat := by
  have bound := toNat_bound c
  have value : c.val.toNat = c.toNat := rfl
  simp only [String.utf8EncodeChar, value, lead, trailLength]
  -- The first octet need not be cut to its bits: the code point has no more.
  split
  · simp [trail]
  · split
    · have whole : c.toNat / 64 % 32 = c.toNat / 64 := Nat.mod_eq_of_lt (by omega)
      simp [trail, whole]
    · split
      · have whole : c.toNat / 4096 % 16 = c.toNat / 4096 := Nat.mod_eq_of_lt (by omega)
        simp [trail, whole]
      · have whole : c.toNat / 262144 % 8 = c.toNat / 262144 := Nat.mod_eq_of_lt (by omega)
        simp [trail, whole]

section

variable {m n : Nat} {s t : List UInt8}

theorem cons_lt_cons (smaller : m < 256) (small : n < 256) (order : m < n ∨ m = n ∧ s < t) :
    UInt8.ofNat m :: s < UInt8.ofNat n :: t := by
  rw [List.cons_lt_cons_iff, UInt8.lt_iff_toNat_lt, octet_toNat m smaller, octet_toNat n small]
  exact order.imp_right fun ⟨same, later⟩ => ⟨congrArg UInt8.ofNat same, later⟩

theorem trail_lt (count : Nat) (order : m % 64 ^ count < n % 64 ^ count) :
    trail count m ++ s < trail count n ++ t := by
  induction count with
  | zero =>
      rw [Nat.pow_zero, Nat.mod_one, Nat.mod_one] at order
      exact absurd order (Nat.lt_irrefl 0)
  | succ count ih =>
      rw [Nat.mod_pow_succ, Nat.mod_pow_succ] at order
      apply cons_lt_cons (by omega) (by omega)
      rcases Nat.lt_trichotomy (m / 64 ^ count % 64) (n / 64 ^ count % 64) with less | same | more
      · exact Or.inl (by omega)
      · rw [same] at order
        exact Or.inr ⟨by rw [same], ih (by omega)⟩
      · have wider := Nat.mul_le_mul_left (64 ^ count) more
        have inside : n % 64 ^ count < 64 ^ count := Nat.mod_lt _ (Nat.pow_pos (by decide))
        rw [Nat.mul_succ] at wider
        omega

theorem lead_small (bound : n < 0x110000) : lead n < 256 := by
  simp only [lead, trailLength]
  split
  · omega
  · split
    · omega
    · split <;> omega

/-- The lower character has the lower first octet, or the same first octet and as many more. -/
theorem lead_order (order : m < n) :
    lead m < lead n ∨ lead m = lead n ∧ trailLength m = trailLength n ∧
      m % 64 ^ trailLength n < n % 64 ^ trailLength n := by
  simp only [lead, trailLength]
  split_ifs <;> omega

theorem encodeChar_lt {c d : Char} (order : c < d) :
    String.utf8EncodeChar c ++ s < String.utf8EncodeChar d ++ t := by
  have less : c.toNat < d.toNat := UInt32.lt_iff_toNat_lt.mp order
  rw [encodeChar_eq c, encodeChar_eq d, List.cons_append, List.cons_append]
  apply cons_lt_cons (lead_small (toNat_bound c)) (lead_small (toNat_bound d))
  rcases lead_order less with first | ⟨same, sameLength, later⟩
  · exact Or.inl first
  · rw [sameLength]
    exact Or.inr ⟨same, trail_lt _ later⟩

end

theorem encode_lt {s t : List Char} (order : s < t) : encode s < encode t := by
  induction s generalizing t with
  | nil =>
      cases t with
      | nil => exact absurd order (List.lt_irrefl [])
      | cons d others =>
          rw [encode, encode, List.flatMap_cons, encodeChar_eq, List.cons_append]
          exact List.nil_lt_cons _ _
  | cons c rest ih =>
      cases t with
      | nil => exact absurd order (List.not_lt_nil _)
      | cons d others =>
          rw [encode, encode, List.flatMap_cons, List.flatMap_cons]
          rcases List.cons_lt_cons_iff.mp order with less | ⟨rfl, later⟩
          · exact encodeChar_lt less
          · exact List.append_left_lt (ih later)

/-- A text comes before another exactly if its octets do. -/
theorem encode_lt_iff (s t : List Char) : encode s < encode t ↔ s < t := by
  refine ⟨fun order => ?_, encode_lt⟩
  rcases lt_trichotomy s t with less | rfl | more
  · exact less
  · exact absurd order (List.lt_irrefl _)
  · exact absurd (encode_lt more) (List.lt_asymm order)

end SenderAudit.Utf8
