import Mathlib.Data.String.Basic
import SenderAudit.Text.Utf8

/-!
Decoding undoes encoding. The octets of a character are read back as that character, whatever
follows them, so the octets of a text are well-formed and give the text.
-/
namespace SenderAudit.Utf8

theorem octet_toNat (n : Nat) (small : n < 256) : (UInt8.ofNat n).toNat = n := by
  rw [UInt8.toNat_ofNat', Nat.mod_eq_of_lt small]

/-! The first octets of characters, by how many more they call for. -/

theorem first_alone (n : Nat) (small : n < 0x80) : first n = .char (Char.ofNat n) :=
  if_pos small

theorem first_of_two : ∀ lead < 32, 2 ≤ lead →
    first (lead + 192) = .begun ⟨1, 0x80, 0xBF, lead⟩ := by
  decide

theorem first_of_three : ∀ lead < 16, first (lead + 224) = .begun
    ⟨2, if lead = 0 then 0xA0 else 0x80, if lead = 13 then 0x9F else 0xBF, lead⟩ := by
  decide

theorem first_of_four : ∀ lead < 5, first (lead + 240) = .begun
    ⟨3, if lead = 0 then 0x90 else 0x80, if lead = 4 then 0x8F else 0xBF, lead⟩ := by
  decide

/-! The steps of a decoding: a first octet, and then octets of six bits. -/

section Steps

variable (low high bits m : Nat) (rest : List UInt8)

theorem pieces_first (lead : Nat) (small : lead < 256) (b : Begun)
    (begins : first lead = .begun b) :
    pieces none (UInt8.ofNat lead :: rest) = pieces (some b) rest := by
  rw [pieces]
  simp only [octet_toNat lead small, begins, List.nil_append]

theorem next_sixBits (owed : Nat) (inRange : low ≤ m % 64 + 128 ∧ m % 64 + 128 ≤ high) :
    (⟨owed, low, high, bits⟩ : Begun).next (UInt8.ofNat (m % 64 + 128)).toNat =
      some (if owed ≤ 1 then .char (Char.ofNat (64 * bits + m % 64))
        else .begun ⟨owed - 1, 0x80, 0xBF, 64 * bits + m % 64⟩) := by
  have payload : (m % 64 + 128) % 64 = m % 64 := by omega
  rw [octet_toNat _ (by omega), Begun.next, if_pos inRange]
  simp only [payload]
  split <;> rfl

theorem pieces_more (owed : Nat) (inRange : low ≤ m % 64 + 128 ∧ m % 64 + 128 ≤ high) :
    pieces (some ⟨owed + 2, low, high, bits⟩) (UInt8.ofNat (m % 64 + 128) :: rest) =
      pieces (some ⟨owed + 1, 0x80, 0xBF, 64 * bits + m % 64⟩) rest := by
  have notLast : ¬ owed + 2 ≤ 1 := by omega
  rw [pieces]
  simp only [next_sixBits low high bits m _ inRange, if_neg notLast, List.nil_append]
  rfl

theorem pieces_last (inRange : low ≤ m % 64 + 128 ∧ m % 64 + 128 ≤ high) :
    pieces (some ⟨1, low, high, bits⟩) (UInt8.ofNat (m % 64 + 128) :: rest) =
      some (Char.ofNat (64 * bits + m % 64)) :: pieces none rest := by
  rw [pieces]
  simp only [next_sixBits low high bits m _ inRange, Nat.le_refl, ↓reduceIte, List.nil_append]

theorem sixBits_inRange : 0x80 ≤ m % 64 + 128 ∧ m % 64 + 128 ≤ 0xBF := by
  omega

end Steps

section Character

variable (n : Nat) (rest : List UInt8)

theorem pieces_alone (small : n < 0x80) :
    pieces none (UInt8.ofNat n :: rest) = some (Char.ofNat n) :: pieces none rest := by
  rw [pieces]
  simp only [octet_toNat n (by omega), first_alone n small, List.nil_append]

theorem pieces_two (low : 0x80 ≤ n) (high : n < 0x800) :
    pieces none (UInt8.ofNat (n / 64 % 32 + 192) :: UInt8.ofNat (n % 64 + 128) :: rest) =
      some (Char.ofNat n) :: pieces none rest := by
  have lead : n / 64 % 32 = n / 64 := Nat.mod_eq_of_lt (by omega)
  have begins := first_of_two (n / 64) (by omega) (by omega)
  rw [lead, pieces_first _ _ (by omega) _ begins, pieces_last _ _ _ _ _ (sixBits_inRange n),
    Nat.div_add_mod]

-- The range of the second octet leaves out what two octets can hold, and the surrogates.
theorem pieces_three (low : 0x800 ≤ n) (high : n < 0x10000) (valid : n.isValidChar) :
    pieces none (UInt8.ofNat (n / 4096 % 16 + 224) :: UInt8.ofNat (n / 64 % 64 + 128) ::
        UInt8.ofNat (n % 64 + 128) :: rest) =
      some (Char.ofNat n) :: pieces none rest := by
  have lead : n / 4096 % 16 = n / 4096 := Nat.mod_eq_of_lt (by omega)
  have begins := first_of_three (n / 4096) (by omega)
  have noSurrogate : n < 0xD800 ∨ 0xDFFF < n := valid.imp_right And.left
  have whole : 64 * (64 * (n / 4096) + n / 64 % 64) + n % 64 = n := by omega
  rw [lead, pieces_first _ _ (by omega) _ begins, pieces_more,
    pieces_last _ _ _ _ _ (sixBits_inRange n), whole]
  constructor <;> split <;> omega

-- Likewise what three octets can hold, and what lies above the last character.
theorem pieces_four (low : 0x10000 ≤ n) (high : n < 0x110000) :
    pieces none (UInt8.ofNat (n / 262144 % 8 + 240) :: UInt8.ofNat (n / 4096 % 64 + 128) ::
        UInt8.ofNat (n / 64 % 64 + 128) :: UInt8.ofNat (n % 64 + 128) :: rest) =
      some (Char.ofNat n) :: pieces none rest := by
  have lead : n / 262144 % 8 = n / 262144 := Nat.mod_eq_of_lt (by omega)
  have begins := first_of_four (n / 262144) (by omega)
  have whole : 64 * (64 * (64 * (n / 262144) + n / 4096 % 64) + n / 64 % 64) + n % 64 = n := by
    omega
  rw [lead, pieces_first _ _ (by omega) _ begins, pieces_more,
    pieces_more _ _ _ _ _ _ (sixBits_inRange (n / 64)),
    pieces_last _ _ _ _ _ (sixBits_inRange n), whole]
  constructor <;> split <;> omega

end Character

theorem pieces_char (c : Char) (rest : List UInt8) :
    pieces none (String.utf8EncodeChar c ++ rest) = some c :: pieces none rest := by
  have bound : c.toNat < 0x110000 := by
    rcases c.valid with below | above
    · exact Nat.lt_trans below (by decide)
    · exact above.2
  have same : some (Char.ofNat c.toNat) = some c := congrArg some (Char.ofNat_toNat c)
  rw [← same, String.utf8EncodeChar]
  change pieces none ((if c.toNat ≤ 127 then _ else if c.toNat ≤ 2047 then _ else
    if c.toNat ≤ 65535 then _ else _) ++ rest) = _
  split
  · exact pieces_alone c.toNat rest (by omega)
  · split
    · exact pieces_two c.toNat rest (by omega) (by omega)
    · split
      · exact pieces_three c.toNat rest (by omega) (by omega) c.valid
      · exact pieces_four c.toNat rest (by omega) bound

theorem pieces_encode (s : List Char) : pieces none (encode s) = s.map some := by
  induction s with
  | nil => rfl
  | cons c rest ih => rw [encode, List.flatMap_cons, pieces_char, List.map_cons, ← ih, encode]

/-- The octets of a text are read as that text. -/
theorem decodeLossy_encode (s : List Char) : decodeLossy (encode s) = s := by
  rw [decodeLossy, pieces_encode, List.map_map]
  exact List.map_id s

theorem decode?_encode (s : List Char) : decode? (encode s) = some s := by
  have same := List.mapM_pure (m := Option) (l := s) (f := id)
  rw [List.map_id] at same
  rw [decode?, pieces_encode, List.mapM_map]
  exact same

theorem encode_append (s t : List Char) : encode (s ++ t) = encode s ++ encode t :=
  List.flatMap_append

theorem length_toList (text : String) : length text.toList = text.utf8ByteSize := by
  rw [← String.utf8Len_toList]
  induction text.toList with
  | nil => rfl
  | cons c rest ih =>
      rw [String.utf8Len_cons, ← ih, Nat.add_comm]
      rfl

theorem length_of_small (s : List Char) (small : ∀ c ∈ s, c.toNat < 128) :
    length s = s.length := by
  induction s with
  | nil => rfl
  | cons c rest ih =>
      have single : c.utf8Size = 1 :=
        Char.utf8Size_eq_one_iff.mpr (UInt32.le_iff_toNat_le.mpr
          (Nat.le_of_lt_succ (small c List.mem_cons_self)))
      have later := ih fun d member => small d (List.mem_cons_of_mem c member)
      change c.utf8Size + length rest = _
      rw [single, later, List.length_cons, Nat.add_comm]

/-! The octets of a character are all in ASCII, or none is. -/

theorem encodeChar_of_small (c : Char) (small : c.toNat < 128) :
    String.utf8EncodeChar c = [UInt8.ofNat c.toNat] :=
  if_pos (Nat.le_of_lt_succ small)

theorem encode_of_small (s : List Char) (small : ∀ c ∈ s, c.toNat < 128) :
    encode s = s.map fun c => UInt8.ofNat c.toNat := by
  induction s with
  | nil => rfl
  | cons c rest ih =>
      obtain ⟨first, later⟩ := List.forall_mem_cons.mp small
      rw [encode, List.flatMap_cons, encodeChar_of_small c first, ← encode, ih later]
      rfl

theorem encodeChar_of_large (c : Char) (large : ¬ c.toNat < 128) :
    ∀ octet ∈ String.utf8EncodeChar c, 128 ≤ octet.toNat := by
  intro octet member
  have beyond : ¬ c.val.toNat ≤ 127 := fun atMost => large (Nat.lt_succ_of_le atMost)
  have atLeast : ∀ n, 128 ≤ n → n < 256 → 128 ≤ (UInt8.ofNat n).toNat := by
    intro n low high
    rwa [octet_toNat n high]
  rw [String.utf8EncodeChar, if_neg beyond] at member
  split at member
  · simp only [List.mem_cons, List.not_mem_nil, or_false] at member
    rcases member with rfl | rfl <;> exact atLeast _ (by omega) (by omega)
  · split at member
    · simp only [List.mem_cons, List.not_mem_nil, or_false] at member
      rcases member with rfl | rfl | rfl <;> exact atLeast _ (by omega) (by omega)
    · simp only [List.mem_cons, List.not_mem_nil, or_false] at member
      rcases member with rfl | rfl | rfl | rfl <;> exact atLeast _ (by omega) (by omega)

end SenderAudit.Utf8
