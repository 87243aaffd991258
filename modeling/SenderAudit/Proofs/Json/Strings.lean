import SenderAudit.Json.Tree
import SenderAudit.Json.Value
import SenderAudit.Proofs.Utf8

/-!
Strings are read as they were written. Between quotes a character stands for itself or is
escaped. Escaped it is in ASCII, and no octet of a character outside of ASCII can be taken for
a quote or a backslash; so each character is passed over as a whole, and carrying out the
escapes gives its octets.
-/
namespace SenderAudit.Json

def lowerDigits (n : Nat) : List Char :=
  [Text.lowerHexDigit (n / 16), Text.lowerHexDigit (n % 16)]

inductive Written (c : Char) : List Char → Prop where
  | plain (noQuote : c ≠ '"') (noBackslash : c ≠ '\\') (printable : 0x20 ≤ c.toNat) :
      Written c [c]
  | letter (letter : Char) (small : c.toNat < 128) (isLetter : isEscapeLetter letter = true)
      (letterSmall : letter.toNat < 128)
      (value : escapeValue (UInt8.ofNat letter.toNat) = UInt8.ofNat c.toNat) :
      Written c ['\\', letter]
  | digits (control : c.toNat < 0x20) : Written c ('\\' :: 'u' :: '0' :: '0' :: lowerDigits c.toNat)

theorem written_escaped (c : Char) : Written c (escaped c) := by
  unfold escaped
  split
  · exact .letter '"' (by decide) (by decide) (by decide) (by decide)
  · exact .letter '\\' (by decide) (by decide) (by decide) (by decide)
  · exact .letter 'n' (by decide) (by decide) (by decide) (by decide)
  · exact .letter 'r' (by decide) (by decide) (by decide) (by decide)
  · exact .letter 't' (by decide) (by decide) (by decide) (by decide)
  · exact .letter 'b' (by decide) (by decide) (by decide) (by decide)
  · exact .letter 'f' (by decide) (by decide) (by decide) (by decide)
  · next noQuote noBackslash _ _ _ _ _ =>
      split
      · next control => exact .digits control
      · next printable => exact .plain noQuote noBackslash (Nat.le_of_not_lt printable)

/-! Reading octets: the characters that they stand for in ASCII, and steps that complete no
token. -/

theorem char_octet (c : Char) (small : c.toNat < 128) :
    Char.ofNat (UInt8.ofNat c.toNat).toNat = c := by
  rw [Utf8.octet_toNat _ (by omega), Char.ofNat_toNat]

theorem readTokens_step (place next : Place) (octet : UInt8) (done : List Token)
    (rest : List UInt8) (step : place.next? octet = some (next, [])) :
    readTokens place done (octet :: rest) = readTokens next done rest := by
  rw [readTokens, step]
  rfl

/-- Octets that stand for themselves in a string. -/
def PlainOctet (octet : UInt8) : Prop :=
  Char.ofNat octet.toNat ≠ '"' ∧ Char.ofNat octet.toNat ≠ '\\' ∧ 0x20 ≤ octet.toNat

theorem plainOctet_of_large (octet : UInt8) (large : 128 ≤ octet.toNat) : PlainOctet octet := by
  have table : ∀ n < 256, 128 ≤ n →
      Char.ofNat n ≠ '"' ∧ Char.ofNat n ≠ '\\' ∧ 0x20 ≤ n := by
    decide +kernel
  exact table octet.toNat octet.toNat_lt large

theorem plainOctets (c : Char) (noQuote : c ≠ '"') (noBackslash : c ≠ '\\')
    (printable : 0x20 ≤ c.toNat) : ∀ octet ∈ String.utf8EncodeChar c, PlainOctet octet := by
  intro octet member
  by_cases small : c.toNat < 128
  · rw [Utf8.encodeChar_of_small c small, List.mem_singleton] at member
    rw [member, PlainOctet, char_octet c small, Utf8.octet_toNat _ (by omega)]
    exact ⟨noQuote, noBackslash, printable⟩
  · exact plainOctet_of_large octet (Utf8.encodeChar_of_large c small octet member)

theorem next_text (before : List UInt8) (octet : UInt8) (plain : PlainOctet octet) :
    (Place.text before).next? octet = some (.text (octet :: before), []) := by
  obtain ⟨noQuote, noBackslash, printable⟩ := plain
  simp only [Place.next?, noQuote, noBackslash, Nat.not_lt.mpr printable, ↓reduceIte]

theorem readTokens_plain (octets before : List UInt8) (done : List Token) (rest : List UInt8)
    (plain : ∀ octet ∈ octets, PlainOctet octet) :
    readTokens (.text before) done (octets ++ rest) =
      readTokens (.text (octets.reverse ++ before)) done rest := by
  induction octets generalizing before with
  | nil => rfl
  | cons octet others ih =>
      rw [List.cons_append, readTokens_step _ _ octet done _
        (next_text before octet (plain octet List.mem_cons_self)),
        ih (octet :: before) fun o member => plain o (List.mem_cons_of_mem octet member),
        List.reverse_cons, List.append_assoc, List.singleton_append]

def digitOctet (n : Nat) : UInt8 :=
  UInt8.ofNat (Text.lowerHexDigit n).toNat

theorem next_digit (n owed : Nat) (small : n < 16) (before : List UInt8) :
    (Place.digits before owed).next? (digitOctet n) = some (match owed with
      | 0 => (.text (digitOctet n :: before), [])
      | owed + 1 => (.digits (digitOctet n :: before) owed, [])) := by
  have table : ∀ n < 16, Text.isHexDigit (Char.ofNat (digitOctet n).toNat) = true := by decide
  simp only [Place.next?, table n small, ↓reduceIte]
  cases owed <;> rfl

theorem encode_letter (letter : Char) (small : letter.toNat < 128) :
    Utf8.encode ['\\', letter] = [0x5C, UInt8.ofNat letter.toNat] := by
  rw [Utf8.encode, List.flatMap_cons, List.flatMap_cons, Utf8.encodeChar_of_small letter small]
  rfl

theorem encode_digits : ∀ n < 32, Utf8.encode ('\\' :: 'u' :: '0' :: '0' :: lowerDigits n) =
    [0x5C, 0x75, 0x30, 0x30, digitOctet (n / 16), digitOctet (n % 16)] := by
  decide +kernel

/-- A character is passed over as a whole, however it is written. -/
theorem readTokens_written (c : Char) (s : List Char) (written : Written c s)
    (before : List UInt8) (done : List Token) (rest : List UInt8) :
    readTokens (.text before) done (Utf8.encode s ++ rest) =
      readTokens (.text ((Utf8.encode s).reverse ++ before)) done rest := by
  cases written with
  | plain noQuote noBackslash printable =>
      have octets : Utf8.encode [c] = String.utf8EncodeChar c := List.append_nil _
      rw [octets]
      exact readTokens_plain _ before done rest (plainOctets c noQuote noBackslash printable)
  | letter letter small isLetter letterSmall value =>
      have step : (Place.escape (0x5C :: before)).next? (UInt8.ofNat letter.toNat) =
          some (.text (UInt8.ofNat letter.toNat :: 0x5C :: before), []) := by
        simp only [Place.next?, char_octet letter letterSmall, isLetter, ↓reduceIte]
      rw [encode_letter letter letterSmall]
      exact (readTokens_step _ _ _ done _ rfl).trans (readTokens_step _ _ _ done _ step)
  | digits control =>
      have high := next_digit (c.toNat / 16) 1 (by omega)
      have low := next_digit (c.toNat % 16) 0 (by omega)
      rw [encode_digits c.toNat control]
      calc readTokens (.text before) done
            ([0x5C, 0x75, 0x30, 0x30, digitOctet (c.toNat / 16), digitOctet (c.toNat % 16)] ++ rest)
        _ = readTokens (.digits (0x30 :: 0x30 :: 0x75 :: 0x5C :: before) 1) done
              (digitOctet (c.toNat / 16) :: digitOctet (c.toNat % 16) :: rest) := rfl
        _ = readTokens (.digits (digitOctet (c.toNat / 16) :: 0x30 :: 0x30 :: 0x75 :: 0x5C ::
              before) 0) done (digitOctet (c.toNat % 16) :: rest) :=
            readTokens_step _ _ _ done _ (high _)
        _ = _ := readTokens_step _ _ _ done _ (low _)

def inner (s : List Char) : List UInt8 :=
  Utf8.encode (s.flatMap escaped)

theorem inner_cons (c : Char) (s : List Char) :
    inner (c :: s) = Utf8.encode (escaped c) ++ inner s := by
  rw [inner, List.flatMap_cons, Utf8.encode_append, inner]

theorem readTokens_inner (s : List Char) (before : List UInt8) (done : List Token)
    (rest : List UInt8) :
    readTokens (.text before) done (inner s ++ rest) =
      readTokens (.text ((inner s).reverse ++ before)) done rest := by
  induction s generalizing before with
  | nil => rfl
  | cons c others ih =>
      rw [inner_cons, List.append_assoc,
        readTokens_written c _ (written_escaped c) before done, ih, List.reverse_append,
        List.append_assoc]

def octets (s : String) : List UInt8 :=
  Utf8.encode s.toList

theorem octets_append (s t : String) : octets (s ++ t) = octets s ++ octets t := by
  rw [octets, String.toList_append, Utf8.encode_append, octets, octets]

/-- Octets between quotes are one token, if they are passed over as a whole. -/
theorem readTokens_closed (inner : List UInt8) (done : List Token) (rest : List UInt8)
    (passes : readTokens (.text []) done (inner ++ 0x22 :: rest) =
      readTokens (.text (inner.reverse ++ [])) done (0x22 :: rest)) :
    readTokens .between done (0x22 :: (inner ++ 0x22 :: rest)) =
      readTokens .between (.text inner :: done) rest := by
  have closes : (Place.text inner.reverse).next? 0x22 = some (.between, [.text inner]) :=
    congrArg (fun octets => some (Place.between, [Token.text octets])) (List.reverse_reverse inner)
  rw [readTokens_step .between (.text []) 0x22 done _ rfl, passes, List.append_nil, readTokens,
    closes]
  rfl

theorem readTokens_quoted (s : String) (done : List Token) (rest : List UInt8) :
    readTokens .between done (octets (quoted s) ++ rest) =
      readTokens .between (.text (inner s.toList) :: done) rest := by
  have split : octets (quoted s) ++ rest = 0x22 :: (inner s.toList ++ 0x22 :: rest) := by
    have between : octets (String.ofList (s.toList.flatMap escaped)) = inner s.toList := by
      rw [octets, String.toList_ofList, inner]
    rw [quoted, octets_append, octets_append, between, List.append_assoc, List.append_assoc]
    rfl
  rw [split]
  exact readTokens_closed _ done rest (readTokens_inner s.toList [] done _)

/-! What a string denotes. -/

theorem unescaped?_cons (octet : UInt8) (rest : List UInt8) (noBackslash : octet ≠ 0x5C) :
    unescaped? (octet :: rest) = (unescaped? rest).map (octet :: ·) := by
  rw [unescaped?.eq_def]
  -- The patterns overlap: nothing to read, four digits, a letter, and else the octet itself.
  split
  · next empty => cases empty
  · next same => exact absurd (List.cons.inj same).1 noBackslash
  · next same => exact absurd (List.cons.inj same).1 noBackslash
  · next same =>
      obtain ⟨rfl, rfl⟩ := List.cons.inj same
      rfl

theorem unescaped?_plain (octets rest : List UInt8)
    (plain : ∀ octet ∈ octets, PlainOctet octet) :
    unescaped? (octets ++ rest) = (unescaped? rest).map (octets ++ ·) := by
  induction octets with
  | nil => exact Option.map_id'.symm
  | cons octet others ih =>
      have noBackslash : octet ≠ 0x5C := by
        rintro rfl
        exact (plain 0x5C List.mem_cons_self).2.1 rfl
      have later := ih fun o member => plain o (List.mem_cons_of_mem octet member)
      rw [List.cons_append, unescaped?_cons octet _ noBackslash, later, Option.map_map]
      rfl

theorem unescaped?_letter (letter : Char) (small : letter.toNat < 128)
    (isLetter : isEscapeLetter letter = true) (rest : List UInt8) :
    unescaped? (0x5C :: UInt8.ofNat letter.toNat :: rest) =
      (unescaped? rest).map (escapeValue (UInt8.ofNat letter.toNat) :: ·) := by
  have notU : UInt8.ofNat letter.toNat ≠ 0x75 := by
    intro same
    have isU := char_octet letter small
    rw [same] at isU
    rw [← isU] at isLetter
    exact absurd isLetter (by decide)
  rw [unescaped?.eq_def]
  split
  · next empty => cases empty
  · next same => exact absurd (List.cons.inj (List.cons.inj same).2).1 notU
  · next same =>
      obtain ⟨_, same⟩ := List.cons.inj same
      obtain ⟨rfl, rfl⟩ := List.cons.inj same
      rfl
  · next noLetter same =>
      obtain ⟨rfl, rfl⟩ := List.cons.inj same
      exact absurd rfl (noLetter _ _ rfl)

theorem unescaped?_digits (n : Nat) (control : n < 0x20) (rest : List UInt8) :
    unescaped? ([0x5C, 0x75, 0x30, 0x30, digitOctet (n / 16), digitOctet (n % 16)] ++ rest) =
      (unescaped? rest).map (String.utf8EncodeChar (Char.ofNat n) ++ ·) := by
  have table : ∀ n < 0x20,
      hexValue [0x30, 0x30, digitOctet (n / 16), digitOctet (n % 16)] = n ∧
        isLowSurrogate n = false ∧ isHighSurrogate n = false := by
    decide +kernel
  obtain ⟨value, notLow, notHigh⟩ := table n control
  rw [unescaped?.eq_def]
  simp only [List.cons_append, List.nil_append, value, notLow, notHigh, Bool.false_eq_true,
    ↓reduceIte]

theorem unescaped?_written (c : Char) (s : List Char) (written : Written c s)
    (rest : List UInt8) :
    unescaped? (Utf8.encode s ++ rest) =
      (unescaped? rest).map (String.utf8EncodeChar c ++ ·) := by
  cases written with
  | plain noQuote noBackslash printable =>
      have octets : Utf8.encode [c] = String.utf8EncodeChar c := List.append_nil _
      rw [octets]
      exact unescaped?_plain _ rest (plainOctets c noQuote noBackslash printable)
  | letter letter small isLetter letterSmall value =>
      rw [encode_letter letter letterSmall, Utf8.encodeChar_of_small c small, ← value]
      exact unescaped?_letter letter letterSmall isLetter rest
  | digits control =>
      rw [encode_digits c.toNat control, unescaped?_digits c.toNat control, Char.ofNat_toNat]

theorem unescaped?_inner (s : List Char) : unescaped? (inner s) = some (Utf8.encode s) := by
  induction s with
  | nil => rfl
  | cons c others ih =>
      rw [inner_cons, unescaped?_written c _ (written_escaped c), ih]
      rfl

theorem characters?_inner (s : String) : characters? (inner s.toList) = some s := by
  rw [characters?, unescaped?_inner, Option.bind_eq_bind, Option.bind_some,
    Utf8.decode?_encode, Option.bind_eq_bind, Option.bind_some, String.ofList_toList]

end SenderAudit.Json
