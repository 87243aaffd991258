import SenderAudit.Proofs.Json.Strings
import SenderAudit.Proofs.Text

/-!
The strings of JSON by its grammar. Between quotes a character may stand for itself, after a
backslash as a letter, or as one or two units in four digits each; each of its spellings is read
as that character. A string whose units do not pair is still one token.
-/
namespace SenderAudit.Json

/-! Hexadecimal digits, in either case. -/

theorem hexDigit_of_lower (digit : Char) (n : Nat) (small : n < 16)
    (spelled : digit.toLower = Nat.digitChar n) :
    digit.toNat < 128 ∧ Text.isHexDigit digit = true ∧ Text.hexDigitValue digit = n := by
  by_cases ascii : digit.toNat < 128
  · have table := Text.of_table (P := fun c => ∀ n < 16, c.toLower = Nat.digitChar n →
      Text.isHexDigit c = true ∧ Text.hexDigitValue c = n) (by decide +kernel) digit ascii
    exact ⟨ascii, table n small spelled⟩
  · have table : ∀ n < 16, (Nat.digitChar n).toNat < 128 := by decide
    rw [Text.toLower_of_large digit ascii] at spelled
    exact absurd (spelled ▸ table n small) ascii

def unitDigits (n : Nat) : List Char :=
  [n / 4096, n / 256 % 16, n / 16 % 16, n % 16].map Nat.digitChar

structure CodeUnit (n : Nat) (digits : List Char) : Prop where
  small : n < 65536
  spelled : Text.lower digits = unitDigits n

theorem CodeUnit.octets {n : Nat} {digits : List Char} (unit : CodeUnit n digits) :
    ∃ a b c d : UInt8, Utf8.encode ('\\' :: 'u' :: digits) = [0x5C, 0x75, a, b, c, d] ∧
      (∀ octet ∈ [a, b, c, d], Text.isHexDigit (Char.ofNat octet.toNat) = true) ∧
      hexValue [a, b, c, d] = n := by
  have small := unit.small
  have spelled := unit.spelled
  rcases digits with _ | ⟨a, _ | ⟨b, _ | ⟨c, _ | ⟨d, _ | ⟨_, _⟩⟩⟩⟩⟩ <;>
    simp only [Text.lower, unitDigits, List.map_cons, List.map_nil, List.cons.injEq, reduceCtorEq,
      and_false, and_true] at spelled
  obtain ⟨isA, isB, isC, isD⟩ := spelled
  obtain ⟨asciiA, hexA, valueA⟩ := hexDigit_of_lower a _ (by omega) isA
  obtain ⟨asciiB, hexB, valueB⟩ := hexDigit_of_lower b _ (by omega) isB
  obtain ⟨asciiC, hexC, valueC⟩ := hexDigit_of_lower c _ (by omega) isC
  obtain ⟨asciiD, hexD, valueD⟩ := hexDigit_of_lower d _ (by omega) isD
  refine ⟨_, _, _, _, Utf8.encode_of_small _ ?_, ?_, ?_⟩
  · simp [asciiA, asciiB, asciiC, asciiD]
  · simp only [List.forall_mem_cons, char_octet a asciiA, char_octet b asciiB, char_octet c asciiC,
      char_octet d asciiD]
    exact ⟨hexA, hexB, hexC, hexD, List.forall_mem_nil _⟩
  · simp only [hexValue, Text.hexValue, List.map_cons, List.map_nil, List.foldl_cons,
      List.foldl_nil, char_octet a asciiA, char_octet b asciiB, char_octet c asciiC,
      char_octet d asciiD, valueA, valueB, valueC, valueD]
    omega

/-! What may stand between quotes. -/

structure IsPlain (c : Char) : Prop where
  noQuote : c ≠ '"'
  noBackslash : c ≠ '\\'
  printable : 0x20 ≤ c.toNat

instance (c : Char) : Decidable (IsPlain c) :=
  decidable_of_iff (c ≠ '"' ∧ c ≠ '\\' ∧ 0x20 ≤ c.toNat)
    ⟨fun ⟨noQuote, noBackslash, printable⟩ => ⟨noQuote, noBackslash, printable⟩,
      fun plain => ⟨plain.noQuote, plain.noBackslash, plain.printable⟩⟩

def escapeLetters : List (Char × Char) :=
  [('"', '"'), ('\\', '\\'), ('/', '/'), ('b', '\x08'), ('f', '\x0C'), ('n', '\n'), ('r', '\r'),
    ('t', '\t')]

inductive IsInner : List Char → Prop
  | nil : IsInner []
  | plain {c : Char} {rest : List Char} (isPlain : IsPlain c) (inner : IsInner rest) :
      IsInner (c :: rest)
  | letter {letter c : Char} {rest : List Char} (known : (letter, c) ∈ escapeLetters)
      (inner : IsInner rest) : IsInner ('\\' :: letter :: rest)
  | digits {n : Nat} {digits rest : List Char} (unit : CodeUnit n digits) (inner : IsInner rest) :
      IsInner ('\\' :: 'u' :: (digits ++ rest))

theorem written_letter (letter c : Char) (known : (letter, c) ∈ escapeLetters) :
    Written c ['\\', letter] := by
  have table : ∀ entry ∈ escapeLetters, entry.2.toNat < 128 ∧ isEscapeLetter entry.1 = true ∧
      entry.1.toNat < 128 ∧
      escapeValue (UInt8.ofNat entry.1.toNat) = UInt8.ofNat entry.2.toNat := by
    decide
  obtain ⟨small, isLetter, letterSmall, value⟩ := table _ known
  exact .letter letter small isLetter letterSmall value

theorem readTokens_digit (octet : UInt8)
    (isDigit : Text.isHexDigit (Char.ofNat octet.toNat) = true) (before : List UInt8) (owed : Nat)
    (done : List Token) (rest : List UInt8) :
    readTokens (.digits before (owed + 1)) done (octet :: rest) =
        readTokens (.digits (octet :: before) owed) done rest ∧
      readTokens (.digits before 0) done (octet :: rest) =
        readTokens (.text (octet :: before)) done rest := by
  constructor <;> apply readTokens_step <;> simp only [Place.next?, isDigit, ↓reduceIte]

theorem readTokens_unit {n : Nat} {digits : List Char} (unit : CodeUnit n digits)
    (before : List UInt8) (done : List Token) (rest : List UInt8) :
    readTokens (.text before) done (Utf8.encode ('\\' :: 'u' :: digits) ++ rest) =
      readTokens (.text ((Utf8.encode ('\\' :: 'u' :: digits)).reverse ++ before)) done rest := by
  obtain ⟨a, b, c, d, octets, isHex, _⟩ := unit.octets
  rw [octets]
  calc readTokens (.text before) done ([0x5C, 0x75, a, b, c, d] ++ rest)
    _ = readTokens (.digits (0x75 :: 0x5C :: before) 3) done (a :: b :: c :: d :: rest) := rfl
    _ = _ := (readTokens_digit a (isHex a (by simp)) _ 2 done _).1
    _ = _ := (readTokens_digit b (isHex b (by simp)) _ 1 done _).1
    _ = _ := (readTokens_digit c (isHex c (by simp)) _ 0 done _).1
    _ = _ := (readTokens_digit d (isHex d (by simp)) _ 0 done _).2

/-- What may stand between quotes is passed over as a whole. -/
theorem readTokens_isInner (s : List Char) (inner : IsInner s) (before : List UInt8)
    (done : List Token) (rest : List UInt8) :
    readTokens (.text before) done (Utf8.encode s ++ rest) =
      readTokens (.text ((Utf8.encode s).reverse ++ before)) done rest := by
  -- A piece and what follows it are passed over one after the other.
  have append (piece others : List Char)
      (first : ∀ before rest, readTokens (.text before) done (Utf8.encode piece ++ rest) =
        readTokens (.text ((Utf8.encode piece).reverse ++ before)) done rest)
      (later : ∀ before, readTokens (.text before) done (Utf8.encode others ++ rest) =
        readTokens (.text ((Utf8.encode others).reverse ++ before)) done rest)
      (before : List UInt8) :
      readTokens (.text before) done (Utf8.encode (piece ++ others) ++ rest) =
        readTokens (.text ((Utf8.encode (piece ++ others)).reverse ++ before)) done rest := by
    rw [Utf8.encode_append, List.append_assoc, first, later, List.reverse_append,
      List.append_assoc]
  induction inner generalizing before with
  | nil => rfl
  | @plain c others isPlain _ ih =>
      have written := Written.plain isPlain.noQuote isPlain.noBackslash isPlain.printable
      exact append [c] others (fun before rest => readTokens_written c _ written before done rest)
        ih before
  | @letter letter c others known _ ih =>
      exact append ['\\', letter] others (fun before rest =>
        readTokens_written c _ (written_letter letter c known) before done rest) ih before
  | @digits n digits others unit _ ih =>
      exact append ('\\' :: 'u' :: digits) others (fun before rest =>
        readTokens_unit unit before done rest) ih before

/-! What strings denote. -/

/-- The spellings of a character. One beyond 16 bits takes a high unit and a low one. -/
inductive Spells (c : Char) : List Char → Prop
  | plain (isPlain : IsPlain c) : Spells c [c]
  | letter {letter : Char} (known : (letter, c) ∈ escapeLetters) : Spells c ['\\', letter]
  | digits {digits : List Char} (unit : CodeUnit c.toNat digits) : Spells c ('\\' :: 'u' :: digits)
  | pair {high low : List Char} (large : 0x10000 ≤ c.toNat)
      (isHigh : CodeUnit (0xD800 + (c.toNat - 0x10000) / 0x400) high)
      (isLow : CodeUnit (0xDC00 + (c.toNat - 0x10000) % 0x400) low) :
      Spells c ('\\' :: 'u' :: (high ++ '\\' :: 'u' :: low))

inductive SpellsText : List Char → List Char → Prop
  | nil : SpellsText [] []
  | cons {c : Char} {text s written : List Char} (spells : Spells c s)
      (later : SpellsText text written) : SpellsText (c :: text) (s ++ written)

theorem spellsText_self (text : List Char) (plain : ∀ c ∈ text, IsPlain c) :
    SpellsText text text := by
  induction text with
  | nil => exact .nil
  | cons c rest ih =>
      obtain ⟨first, later⟩ := List.forall_mem_cons.mp plain
      exact .cons (.plain first) (ih later)

theorem SpellsText.isInner {text written : List Char} (spells : SpellsText text written) :
    IsInner written := by
  induction spells with
  | nil => exact .nil
  | cons first _ ih =>
      cases first with
      | plain isPlain => exact .plain isPlain ih
      | letter known => exact .letter known ih
      | digits unit => exact .digits unit ih
      | pair large isHigh isLow =>
          have inner := IsInner.digits isHigh (IsInner.digits isLow ih)
          simpa using inner

theorem unescaped?_spells (c : Char) (s : List Char) (spells : Spells c s) (rest : List UInt8) :
    unescaped? (Utf8.encode s ++ rest) = (unescaped? rest).map (String.utf8EncodeChar c ++ ·) := by
  cases spells with
  | plain isPlain =>
      exact unescaped?_written c _
        (.plain isPlain.noQuote isPlain.noBackslash isPlain.printable) rest
  | letter known => exact unescaped?_written c _ (written_letter _ c known) rest
  | digits unit =>
      obtain ⟨x, y, z, w, octets, _, value⟩ := unit.octets
      have noSurrogate : c.toNat < 0xD800 ∨ 0xDFFF < c.toNat := c.valid.imp_right And.left
      have notLow : isLowSurrogate c.toNat = false := by
        simp [isLowSurrogate]
        omega
      have notHigh : isHighSurrogate c.toNat = false := by
        simp [isHighSurrogate]
        omega
      rw [octets, unescaped?.eq_def]
      simp only [List.cons_append, List.nil_append, value, notLow, notHigh, Bool.false_eq_true,
        ↓reduceIte, Char.ofNat_toNat]
  | @pair highDigits lowDigits large isHigh isLow =>
      obtain ⟨x, y, z, w, highOctets, _, highValue⟩ := isHigh.octets
      obtain ⟨x', y', z', w', lowOctets, _, lowValue⟩ := isLow.octets
      have bound : c.toNat < 0x110000 := by
        rcases c.valid with below | above
        · exact Nat.lt_trans below (by decide)
        · exact above.2
      have whole : (0xD800 + (c.toNat - 0x10000) / 0x400 - 0xD800) * 0x400 +
          (0xDC00 + (c.toNat - 0x10000) % 0x400 - 0xDC00) + 0x10000 = c.toNat := by
        omega
      have joined : ofSurrogates (0xD800 + (c.toNat - 0x10000) / 0x400)
          (0xDC00 + (c.toNat - 0x10000) % 0x400) = c := by
        rw [ofSurrogates, whole, Char.ofNat_toNat]
      have highNotLow : isLowSurrogate (0xD800 + (c.toNat - 0x10000) / 0x400) = false := by
        simp [isLowSurrogate]
        omega
      have high : isHighSurrogate (0xD800 + (c.toNat - 0x10000) / 0x400) = true := by
        simp [isHighSurrogate]
        omega
      have low : isLowSurrogate (0xDC00 + (c.toNat - 0x10000) % 0x400) = true := by
        simp [isLowSurrogate]
        omega
      have octets := Utf8.encode_append ('\\' :: 'u' :: highDigits) ('\\' :: 'u' :: lowDigits)
      rw [List.cons_append, List.cons_append, highOctets, lowOctets] at octets
      rw [octets, unescaped?.eq_def]
      simp only [List.cons_append, List.nil_append, highValue, lowValue, highNotLow, high, low,
        Bool.false_eq_true, ↓reduceIte, joined]

/-- A string in any of its spellings denotes its characters. -/
theorem characters?_spells (text : String) (written : List Char)
    (spells : SpellsText text.toList written) :
    characters? (Utf8.encode written) = some text := by
  have carried : unescaped? (Utf8.encode written) = some (Utf8.encode text.toList) := by
    generalize text.toList = characters at spells
    induction spells with
    | nil => rfl
    | @cons c text s written first _ ih =>
        rw [Utf8.encode_append, unescaped?_spells c s first, ih]
        rfl
  rw [characters?, carried, Option.bind_eq_bind, Option.bind_some, Utf8.decode?_encode,
    Option.bind_eq_bind, Option.bind_some, String.ofList_toList]

end SenderAudit.Json
