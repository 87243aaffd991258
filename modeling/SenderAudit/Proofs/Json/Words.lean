import Mathlib.Data.List.TakeWhile
import Mathlib.Data.List.Basic
import SenderAudit.Proofs.Json.Strings
import SenderAudit.Proofs.Text

/-!
Literals and numbers as words. A word ends where something else begins, or with the text; so
what is written after it must not begin like a word.
-/
namespace SenderAudit.Json

def EndsWord (rest : List UInt8) : Prop :=
  ∀ octet, rest.head? = some octet → isWordChar (Char.ofNat octet.toNat) = false

theorem endsWord_nil : EndsWord [] :=
  fun _ head => by cases head

theorem endsWord_cons (octet : UInt8) (rest : List UInt8)
    (other : isWordChar (Char.ofNat octet.toNat) = false) : EndsWord (octet :: rest) := by
  rintro _ head
  cases head
  exact other

/-! The blanks between words. -/

def IsGap (s : List Char) : Prop :=
  ∀ c ∈ s, c = ' ' ∨ c = '\t' ∨ c = '\n' ∨ c = '\r'

theorem readTokens_gap (s : List Char) (isGap : IsGap s) (done : List Token)
    (rest : List UInt8) :
    readTokens .between done (Utf8.encode s ++ rest) = readTokens .between done rest := by
  induction s with
  | nil => rfl
  | cons c others ih =>
      rw [← ih fun c member => isGap c (List.mem_cons_of_mem _ member)]
      rcases isGap c List.mem_cons_self with rfl | rfl | rfl | rfl
      · exact readTokens_step .between .between 0x20 done _ rfl
      · exact readTokens_step .between .between 0x09 done _ rfl
      · exact readTokens_step .between .between 0x0A done _ rfl
      · exact readTokens_step .between .between 0x0D done _ rfl

theorem endsWord_gap (s : List Char) (isGap : IsGap s) (rest : List UInt8)
    (ends : EndsWord rest) : EndsWord (Utf8.encode s ++ rest) := by
  cases s with
  | nil => exact ends
  | cons c others =>
      rcases isGap c List.mem_cons_self with rfl | rfl | rfl | rfl
      · exact endsWord_cons 0x20 _ (by decide)
      · exact endsWord_cons 0x09 _ (by decide)
      · exact endsWord_cons 0x0A _ (by decide)
      · exact endsWord_cons 0x0D _ (by decide)

/-! Words. -/

theorem isWordChar_small (c : Char) (isWord : isWordChar c = true) : c.toNat < 128 := by
  simp only [isWordChar, Bool.or_eq_true, beq_iff_eq] at isWord
  rcases isWord with ((alphanum | rfl) | rfl) | rfl
  · exact Text.small_of_isAlphanum c alphanum
  all_goals decide

theorem readTokens_endOfWord (before : List Char) (done : List Token) (rest : List UInt8)
    (ends : EndsWord rest) :
    readTokens (.word before) done rest =
      readTokens .between (.word before.reverse :: done) rest := by
  cases rest with
  | nil => simp [readTokens, Place.last?]
  | cons octet others =>
      have other := ends octet rfl
      simp only [readTokens, Place.next?, other, Bool.false_eq_true, ↓reduceIte]
      cases outside? octet with
      | none => rfl
      | some found => simp

theorem readTokens_wordChars (before s : List Char) (done : List Token) (rest : List UInt8)
    (isWord : ∀ c ∈ s, isWordChar c = true) :
    readTokens (.word before) done (Utf8.encode s ++ rest) =
      readTokens (.word (s.reverse ++ before)) done rest := by
  induction s generalizing before with
  | nil => rfl
  | cons c others ih =>
      have isFirst := isWord c List.mem_cons_self
      have small := isWordChar_small c isFirst
      have step : (Place.word before).next? (UInt8.ofNat c.toNat) =
          some (.word (c :: before), []) := by
        simp only [Place.next?, char_octet c small, isFirst, ↓reduceIte]
      have later := ih (c :: before) fun c member => isWord c (List.mem_cons_of_mem _ member)
      rw [Utf8.encode, List.flatMap_cons, Utf8.encodeChar_of_small c small, ← Utf8.encode,
        List.append_assoc, List.singleton_append, readTokens_step _ _ _ done _ step, later,
        List.reverse_cons, List.append_assoc, List.singleton_append]

theorem next_firstOfWord (c : Char) (isWord : isWordChar c = true) :
    Place.between.next? (UInt8.ofNat c.toNat) = some (.word [c], []) := by
  have table : ∀ n < 128, isWordChar (Char.ofNat n) = true →
      outside? (UInt8.ofNat n) = some (.word [Char.ofNat n], []) := by
    decide +kernel
  have entry := table c.toNat (isWordChar_small c isWord)
  rw [Char.ofNat_toNat] at entry
  exact entry isWord

theorem readTokens_word (s : List Char) (nonempty : s ≠ []) (done : List Token)
    (rest : List UInt8) (isWord : ∀ c ∈ s, isWordChar c = true) (ends : EndsWord rest) :
    readTokens .between done (Utf8.encode s ++ rest) =
      readTokens .between (.word s :: done) rest := by
  obtain ⟨c, others, rfl⟩ := List.exists_cons_of_ne_nil nonempty
  have isFirst := isWord c List.mem_cons_self
  have isLater : ∀ c ∈ others, isWordChar c = true :=
    fun c member => isWord c (List.mem_cons_of_mem _ member)
  rw [Utf8.encode, List.flatMap_cons, Utf8.encodeChar_of_small c (isWordChar_small c isFirst),
    ← Utf8.encode, List.append_assoc, List.singleton_append,
    readTokens_step _ _ _ done _ (next_firstOfWord c isFirst),
    readTokens_wordChars [c] others done rest isLater, readTokens_endOfWord _ done rest ends,
    List.reverse_append, List.reverse_reverse]
  rfl

/-! Numbers. -/

theorem toDigits_isDigit (n : Nat) : ∀ c ∈ Nat.toDigits 10 n, c.isDigit = true :=
  fun _ member => Nat.isDigit_of_mem_toDigits (by decide) (by decide) member

theorem toDigits_head_zero (n : Nat) (zero : (Nat.toDigits 10 n).head? = some '0') : n = 0 := by
  induction n using Nat.strongRecOn with
  | ind n ih =>
      by_cases alone : n < 10
      · have table : ∀ n < 10, Nat.digitChar n = '0' → n = 0 := by decide
        rw [Nat.toDigits_of_lt_base alone] at zero
        exact table n alone (Option.some.inj zero)
      · rw [Nat.toDigits_of_base_le (by decide) (Nat.le_of_not_lt alone),
          List.head?_append_of_ne_nil _ Nat.toDigits_ne_nil] at zero
        have none := ih (n / 10) (by omega) zero
        omega

theorem isDigits_toDigits (n : Nat) : Text.isDigits (Nat.toDigits 10 n) = true := by
  rw [Text.isDigits, List.isEmpty_eq_false_iff.mpr Nat.toDigits_ne_nil,
    List.all_eq_true.mpr (toDigits_isDigit n)]
  rfl

theorem digitsValue_toDigits (n : Nat) : Text.digitsValue (Nat.toDigits 10 n) = n := by
  rw [Text.digitsValue, ← Nat.ofDigitChars_eq_foldl, Nat.ofDigitChars_ten_toDigits]

theorem digitChar_value (c : Char) (digit : c.isDigit = true) :
    c.toNat - '0'.toNat < 10 ∧ Nat.digitChar (c.toNat - '0'.toNat) = c := by
  have table : ∀ n < 58, 48 ≤ n → Nat.digitChar (n - '0'.toNat) = Char.ofNat n := by decide
  have range : 48 ≤ c.toNat ∧ c.toNat ≤ 57 := by
    simpa [Char.isDigit, UInt32.le_iff_toNat_le] using digit
  constructor
  · change c.toNat - 48 < 10
    omega
  · rw [table c.toNat (by omega) range.1, Char.ofNat_toNat]

/-- Digits after a number that is not zero are written after its digits. -/
theorem toDigits_foldl (digits : List Char) (areDigits : ∀ c ∈ digits, c.isDigit = true) (n : Nat)
    (positive : 0 < n) :
    Nat.toDigits 10 (digits.foldl (fun n c => 10 * n + (c.toNat - '0'.toNat)) n) =
      Nat.toDigits 10 n ++ digits := by
  induction digits generalizing n with
  | nil => simp
  | cons c rest ih =>
      obtain ⟨isFirst, later⟩ := List.forall_mem_cons.mp areDigits
      obtain ⟨small, same⟩ := digitChar_value c isFirst
      rw [List.foldl_cons, ih later _ (by omega),
        ← Nat.toDigits_append_toDigits (by decide) positive small, Nat.toDigits_of_lt_base small,
        same, List.append_assoc, List.singleton_append]

theorem toDigits_digitsValue (s : List Char) (whole : isWhole s = true) :
    Nat.toDigits 10 (Text.digitsValue s) = s := by
  obtain ⟨digits, noZero⟩ := Bool.and_eq_true_iff.mp whole
  obtain ⟨nonempty, all⟩ := Bool.and_eq_true_iff.mp digits
  cases s with
  | nil => cases nonempty
  | cons c rest =>
      obtain ⟨isFirst, areDigits⟩ := List.forall_mem_cons.mp (List.all_eq_true.mp all)
      obtain ⟨small, same⟩ := digitChar_value c isFirst
      by_cases zero : c = '0'
      · subst zero
        have alone : rest = [] := by simpa using noZero
        rw [alone]
        rfl
      · have positive : 0 < c.toNat - '0'.toNat := by
          apply Nat.pos_of_ne_zero
          intro none
          rw [none] at same
          exact zero same.symm
        have written := toDigits_foldl rest areDigits _ positive
        rw [Nat.toDigits_of_lt_base small, same] at written
        rw [Text.digitsValue, List.foldl_cons, Nat.mul_zero, Nat.zero_add, written]
        rfl

theorem isWhole_toDigits (n : Nat) : isWhole (Nat.toDigits 10 n) = true := by
  by_cases zero : (Nat.toDigits 10 n).head? = some '0'
  · rw [toDigits_head_zero n zero]
    decide
  · simp [isWhole, isDigits_toDigits, zero]

def sign (n : Int) : List Char :=
  if n < 0 then ['-'] else []

theorem toString_toList (n : Int) :
    (toString n).toList = sign n ++ Nat.toDigits 10 n.natAbs := by
  cases n with
  | ofNat m =>
      change m.repr.toList = _
      rw [Nat.repr_eq_ofList_toDigits, String.toList_ofList]
      rfl
  | negSucc m =>
      change ("-" ++ (m + 1).repr).toList = _
      rw [Nat.repr_eq_ofList_toDigits, String.toList_append, String.toList_ofList,
        String.toList_ofList, sign, if_pos (Int.negSucc_lt_zero m)]
      rfl

theorem toDigits_noMinus (n : Nat) (rest : List Char) : Nat.toDigits 10 n ≠ '-' :: rest := by
  intro same
  have digit := toDigits_isDigit n '-' (same ▸ List.mem_cons_self)
  exact absurd digit (by decide)

theorem afterMinus_sign (n : Int) :
    afterMinus (sign n ++ Nat.toDigits 10 n.natAbs) = Nat.toDigits 10 n.natAbs := by
  by_cases negative : n < 0
  · rw [sign, if_pos negative]
    rfl
  · rw [sign, if_neg negative, List.nil_append, afterMinus.eq_def]
    split
    · next rest same => exact absurd same (toDigits_noMinus _ _)
    · rfl

theorem isNumber_toString (n : Int) : isNumber (toString n).toList = true := by
  have digits := toDigits_isDigit n.natAbs
  have taken := List.takeWhile_eq_self_iff.mpr digits
  have dropped := List.dropWhile_eq_nil_iff.mpr digits
  rw [toString_toList, isNumber, afterMinus_sign, taken, dropped, isWhole_toDigits]
  rfl

structure IsWord (s : String) : Prop where
  nonempty : s.toList ≠ []
  chars : ∀ c ∈ s.toList, isWordChar c = true
  word : isWord s.toList = true

theorem isWord_null : IsWord "null" :=
  ⟨by decide, List.all_eq_true.mp (by decide), by decide⟩

theorem isWord_true : IsWord "true" :=
  ⟨by decide, List.all_eq_true.mp (by decide), by decide⟩

theorem isWord_false : IsWord "false" :=
  ⟨by decide, List.all_eq_true.mp (by decide), by decide⟩

theorem isWord_number (n : Int) : IsWord (toString n) := by
  have number := isNumber_toString n
  have digitChar : ∀ c, c.isDigit = true → isWordChar c = true := by
    intro c digit
    simp [isWordChar, Char.isAlphanum, digit]
  refine ⟨?_, ?_, ?_⟩
  · intro empty
    rw [empty] at number
    exact absurd number (by decide)
  · intro c member
    rw [toString_toList] at member
    rcases List.mem_append.mp member with inSign | inDigits
    · unfold sign at inSign
      split at inSign
      · rw [List.mem_singleton.mp inSign]
        decide
      · cases inSign
    · exact digitChar c (toDigits_isDigit n.natAbs c inDigits)
  · rw [isWord, number, Bool.or_true]

def natural? (digits : List Char) : Option Nat :=
  if Text.isDigits digits then some (Text.digitsValue digits) else none

/-- A whole number, which is negative after a minus sign. -/
def integer? : List Char → Option Int
  | '-' :: digits => (natural? digits).map fun n => -n
  | digits => (natural? digits).map Int.ofNat

def ofWord? (letters : List Char) : Option Json :=
  if letters = "null".toList then some .null
  else if letters = "true".toList then some (.bool true)
  else if letters = "false".toList then some (.bool false)
  else (integer? letters).map .number

theorem natural?_toDigits (n : Nat) : natural? (Nat.toDigits 10 n) = some n := by
  rw [natural?, if_pos (isDigits_toDigits n), digitsValue_toDigits]

theorem integer?_toString (n : Int) : integer? (toString n).toList = some n := by
  rw [toString_toList]
  by_cases negative : n < 0
  · rw [sign, if_pos negative, List.singleton_append, integer?, natural?_toDigits]
    change some (-(n.natAbs : Int)) = some n
    exact congrArg some (by omega)
  · rw [sign, if_neg negative, List.nil_append, integer?, natural?_toDigits]
    · change some (n.natAbs : Int) = some n
      exact congrArg some (by omega)
    · exact toDigits_noMinus n.natAbs

theorem ofWord?_number (n : Int) : ofWord? (toString n).toList = some (.number n) := by
  have other : ∀ s : List Char, isNumber s = false → (toString n).toList ≠ s := by
    rintro _ noNumber rfl
    exact absurd (isNumber_toString n) (Bool.eq_false_iff.mp noNumber)
  rw [ofWord?, if_neg (other _ (by decide)), if_neg (other _ (by decide)),
    if_neg (other _ (by decide)), integer?_toString]
  rfl

end SenderAudit.Json
