import SenderAudit.Proofs.Text
import SenderAudit.Spf.Parser

/-!
Networks have no case: reading a text in lower case finds what reading the text finds, and
leaves the lower case of what that leaves. A network of addresses in decimals is in lower case
already.
-/
namespace SenderAudit

namespace Text

/-- A character is in the class exactly if its lower case is. -/
def Caseless (p : Char → Bool) : Prop :=
  ∀ c : Char, p c.toLower = p c

-- Only letters of ASCII are changed, so a table decides.
theorem caseless_of_table {p : Char → Bool}
    (table : ∀ n < 128, p (Char.ofNat n).toLower = p (Char.ofNat n)) : Caseless p := by
  intro c
  by_cases small : c.toNat < 128
  · exact of_table (P := fun c => p c.toLower = p c) table c small
  · rw [toLower_of_large c small]

theorem isDigit_caseless : Caseless Char.isDigit :=
  caseless_of_table (by decide)

theorem isHexDigit_caseless : Caseless isHexDigit :=
  caseless_of_table (by decide)

theorem isBlank_caseless : Caseless isBlank :=
  caseless_of_table (by decide)

theorem notSlash_caseless : Caseless (· != '/') :=
  caseless_of_table (by decide)

theorem toLower_eq_sign_iff (sign : Char) (isSign : sign ∈ ['+', '.', ':']) (c : Char) :
    c.toLower = sign ↔ c = sign := by
  have caseless : Caseless (· == sign) := by
    simp only [List.mem_cons, List.not_mem_nil, or_false] at isSign
    apply caseless_of_table
    rcases isSign with rfl | rfl | rfl <;> decide
  have same : (c.toLower == sign) = (c == sign) := caseless c
  rw [← beq_iff_eq, same, beq_iff_eq]

theorem toLower_of_isDigit (c : Char) (digit : c.isDigit = true) : c.toLower = c := by
  by_cases small : c.toNat < 128
  · exact of_table (P := fun c => c.isDigit = true → c.toLower = c) (by decide) c small digit
  · exact toLower_of_large c small

theorem lower_isEmpty (s : List Char) : (lower s).isEmpty = s.isEmpty := by
  cases s <;> rfl

section Classes

variable {p : Char → Bool} (caseless : Caseless p) (s : List Char)
include caseless

theorem takeWhile_lower : (lower s).takeWhile p = lower (s.takeWhile p) := by
  rw [lower, List.takeWhile_map, show p ∘ Char.toLower = p from funext caseless]
  rfl

theorem dropWhile_lower : (lower s).dropWhile p = lower (s.dropWhile p) := by
  rw [lower, List.dropWhile_map, show p ∘ Char.toLower = p from funext caseless]
  rfl

theorem all_lower : (lower s).all p = s.all p := by
  rw [lower, List.all_map, show p ∘ Char.toLower = p from funext caseless]

end Classes

theorem takeWhile_digits_lower (s : List Char) :
    (lower s).takeWhile Char.isDigit = s.takeWhile Char.isDigit := by
  rw [takeWhile_lower isDigit_caseless]
  exact lower_eq_self _ fun c member => toLower_of_isDigit c (List.mem_takeWhile_imp member)

theorem cut_lower {sep : Char} (caseless : Caseless (· != sep)) (s : List Char) :
    cut sep (lower s) = (cut sep s).map (Prod.map lower lower) := by
  rw [cut, cut, dropWhile_lower caseless, takeWhile_lower caseless]
  cases s.dropWhile (· != sep) <;> rfl

theorem afterPlus_lower (s : List Char) : afterPlus (lower s) = lower (afterPlus s) := by
  cases s with
  | nil => rfl
  | cons c rest =>
      by_cases plus : c = '+'
      · subst plus
        rfl
      · have other := mt (toLower_eq_sign_iff '+' (by decide) c).mp plus
        simp [lower, afterPlus, plus, other]

theorem decimal?_lower (limit : Nat) (s : List Char) :
    decimal? limit (lower s) = decimal? limit s := by
  have digits : isDigits (lower (afterPlus s)) = isDigits (afterPlus s) := by
    rw [isDigits, isDigits, lower_isEmpty, all_lower isDigit_caseless]
  simp only [decimal?, afterPlus_lower, digits]
  cases isNumber : isDigits (afterPlus s) with
  | false => rfl
  | true =>
      rw [isDigits, Bool.and_eq_true, List.all_eq_true] at isNumber
      rw [lower_eq_self _ fun c member => toLower_of_isDigit c (isNumber.2 c member)]

theorem lower_isDigits (s : List Char) (digits : isDigits s = true) : lower s = s := by
  rw [isDigits, Bool.and_eq_true, List.all_eq_true] at digits
  exact lower_eq_self s fun c member => toLower_of_isDigit c (digits.2 c member)

theorem lower_decimal (limit : Nat) (s : List Char) (read : (decimal? limit s).isSome = true) :
    lower s = s := by
  have digits : isDigits (afterPlus s) = true := by
    rw [decimal?] at read
    split at read
    · rename_i fits
      exact (Bool.and_eq_true_iff.mp fits).1
    · cases read
  unfold afterPlus at digits
  split at digits
  · rename_i rest
    exact congrArg ('+' :: ·) (lower_isDigits rest digits)
  · exact lower_isDigits s digits

end Text

namespace Ipv4

open Text (lower)

theorem octet?_lower (s : List Char) :
    octet? (lower s) = (octet? s).map (Prod.map id lower) := by
  simp only [octet?, Text.takeWhile_digits_lower, Text.dropWhile_lower Text.isDigit_caseless]
  split <;> rfl

theorem dotted?_lower (count : Nat) (s : List Char) :
    dotted? count (lower s) = (dotted? count s).map (Prod.map id lower) := by
  induction count generalizing s with
  | zero => rfl
  | succ count ih =>
      cases s with
      | nil => rfl
      | cons c rest =>
          by_cases dot : c = '.'
          · subst dot
            change dotted? (count + 1) ('.' :: lower rest) = _
            rw [dotted?, dotted?, octet?_lower]
            cases octet? rest with
            | none => rfl
            | some first =>
                simp only [Option.map_some, Prod.map, Option.bind_eq_bind, Option.bind_some, ih]
                cases dotted? count first.2 <;> rfl
          · have other := mt (Text.toLower_eq_sign_iff '.' (by decide) c).mp dot
            simp [lower, dotted?, dot, other]

theorem scan?_lower (s : List Char) : scan? (lower s) = (scan? s).map (Prod.map id lower) := by
  rw [scan?, scan?, octet?_lower]
  cases octet? s with
  | none => rfl
  | some first =>
      simp only [Option.map_some, Prod.map, Option.bind_eq_bind, Option.bind_some, dotted?_lower]
      cases dotted? 3 first.2 <;> rfl

/-! What is read of an address has no case, so that the address has none if the rest has none. -/

theorem octet?_plain (s rest : List Char) (value : Nat) (read : octet? s = some (value, rest))
    (plain : lower rest = rest) : lower s = s := by
  rw [octet?] at read
  split at read
  · cases read
  · cases read
    have digits := Text.takeWhile_digits_lower s
    rw [Text.takeWhile_lower Text.isDigit_caseless] at digits
    rw [← List.takeWhile_append_dropWhile (p := Char.isDigit) (l := s), Text.lower_append, digits,
      plain]

theorem dotted?_plain (count : Nat) (s rest : List Char) (values : List Nat)
    (read : dotted? count s = some (values, rest)) (plain : lower rest = rest) : lower s = s := by
  induction count generalizing s values with
  | zero =>
      cases read
      exact plain
  | succ count ih =>
      rcases s with _ | ⟨c, after⟩
      · cases read
      · by_cases dot : c = '.'
        · subst dot
          obtain ⟨⟨value, between⟩, first, later⟩ := Option.bind_eq_some_iff.mp read
          obtain ⟨⟨others, last⟩, found, same⟩ := Option.bind_eq_some_iff.mp later
          cases same
          exact congrArg ('.' :: ·)
            (octet?_plain after between value first (ih between others found))
        · simp [dotted?, dot] at read

theorem isAddress_plain (s : List Char) (isAddress : isAddress s = true) : lower s = s := by
  obtain ⟨⟨values, rest⟩, read, empty⟩ := (Option.any_eq_true _ _).mp isAddress
  obtain ⟨⟨value, between⟩, first, later⟩ := Option.bind_eq_some_iff.mp read
  obtain ⟨⟨others, last⟩, found, same⟩ := Option.bind_eq_some_iff.mp later
  cases same
  obtain rfl := List.isEmpty_iff.mp empty
  exact octet?_plain s between value first (dotted?_plain 3 between [] others found rfl)

theorem isAddress_lower (s : List Char) : isAddress (lower s) = isAddress s := by
  rw [isAddress, isAddress, scan?_lower]
  cases scan? s with
  | none => rfl
  | some found => exact Text.lower_isEmpty found.2

end Ipv4

namespace Ipv6

open Text (lower)

theorem group?_lower (s : List Char) : group? (lower s) = (group? s).map lower := by
  have length : ((lower s).takeWhile Text.isHexDigit).length =
      (s.takeWhile Text.isHexDigit).length := by
    rw [Text.takeWhile_lower Text.isHexDigit_caseless, lower, List.length_map]
  simp only [group?, length, Text.dropWhile_lower Text.isHexDigit_caseless]
  split <;> rfl

theorem afterColon?_lower (isFirst : Bool) (s : List Char) :
    afterColon? isFirst (lower s) = (afterColon? isFirst s).map lower := by
  cases isFirst with
  | true => rfl
  | false =>
      cases s with
      | nil => rfl
      | cons c rest =>
          by_cases colon : c = ':'
          · subst colon
            rfl
          · have other := mt (Text.toLower_eq_sign_iff ':' (by decide) c).mp colon
            simp [lower, afterColon?, colon, other]

theorem groups_lower (room : Nat) (isFirst : Bool) (s : List Char) :
    groups room isFirst (lower s) =
      ((groups room isFirst s).1, (groups room isFirst s).2.1,
        lower (groups room isFirst s).2.2) := by
  induction room generalizing isFirst s with
  | zero => rfl
  | succ room ih =>
      simp only [groups, afterColon?_lower]
      cases afterColon? isFirst s with
      | none => rfl
      | some body =>
          have octets : (if room = 0 then none else Ipv4.scan? (lower body)) =
              (if room = 0 then none else Ipv4.scan? body).map (Prod.map id lower) := by
            rw [Ipv4.scan?_lower]
            split <;> rfl
          simp only [Option.map_some, octets, group?_lower]
          cases (if room = 0 then none else Ipv4.scan? body) with
          | some last => rfl
          | none =>
              cases group? body with
              | none => rfl
              | some rest => simp only [Option.map_none, Option.map_some, ih]

theorem isAddress_lower (s : List Char) : isAddress (lower s) = isAddress s := by
  rw [isAddress, isAddress, groups_lower]
  obtain ⟨count, octets, rest⟩ := groups 8 true s
  dsimp only
  rw [Text.lower_isEmpty]
  congr 2
  -- What is left is read on only after two colons.
  rcases rest with _ | ⟨c, rest⟩
  · rfl
  · by_cases first : c = ':'
    · subst first
      rcases rest with _ | ⟨d, tail⟩
      · rfl
      · by_cases second : d = ':'
        · subst second
          change (groups (7 - count) true (lower tail)).2.2.isEmpty =
            (groups (7 - count) true tail).2.2.isEmpty
          rw [groups_lower, Text.lower_isEmpty]
        · have other := mt (Text.toLower_eq_sign_iff ':' (by decide) d).mp second
          simp [lower, second, other]
    · have other := mt (Text.toLower_eq_sign_iff ':' (by decide) c).mp first
      simp [lower, first, other]

end Ipv6

namespace Spf

open Text (lower)

theorem isNetwork_lower {isAddress : List Char → Bool}
    (caseless : ∀ s, isAddress (lower s) = isAddress s) (maxLength : Nat) (s : List Char) :
    isNetwork isAddress maxLength (lower s) = isNetwork isAddress maxLength s := by
  rw [isNetwork, isNetwork, Text.cut_lower Text.notSlash_caseless]
  cases Text.cut '/' s with
  | none => exact caseless s
  | some parts => simp only [Option.map_some, Prod.map, Text.decimal?_lower, caseless]

theorem lower_network (maxLength : Nat) (s : List Char)
    (network : isNetwork Ipv4.isAddress maxLength s = true) : lower s = s := by
  rw [isNetwork] at network
  rcases Text.cut_cases '/' s with ⟨address, length, rfl, _, split⟩ | ⟨_, whole⟩
  · rw [split, Bool.and_eq_true] at network
    rw [Text.lower_append, Ipv4.isAddress_plain address network.2]
    exact congrArg (address ++ '/' :: ·) (Text.lower_decimal maxLength length network.1)
  · rw [whole] at network
    exact Ipv4.isAddress_plain s network

end Spf

end SenderAudit
