import SenderAudit.Lookup.Txt
import SenderAudit.Proofs.Text
import SenderAudit.Proofs.Utf8

/-!
Reading undoes writing in presentation form. A writer may spell each character of a text in
several ways and put anything but quotes between the quoted texts; whatever it chooses, the
texts are read back.
-/
namespace SenderAudit.Txt

def decimalEscape (octet : UInt8) : List Char :=
  let n := octet.toNat
  ['\\', Nat.digitChar (n / 100), Nat.digitChar (n / 10 % 10), Nat.digitChar (n % 10)]

/-- The ways to spell a character within quotes: as itself, after a backslash, or by the
octets of its UTF-8 form. -/
inductive Spells (c : Char) : List Char → Prop
  | plain (notQuote : c ≠ '"') (notEscape : c ≠ '\\') : Spells c [c]
  | escaped (notDigit : c.isDigit = false) : Spells c ['\\', c]
  | decimal : Spells c ((String.utf8EncodeChar c).flatMap decimalEscape)

inductive Writes : List Char → List Char → Prop
  | nil : Writes [] []
  | cons {c : Char} {spelled text written : List Char} (spells : Spells c spelled)
      (writes : Writes text written) : Writes (c :: text) (spelled ++ written)

/-- Data that holds texts in quotes, with gaps around them. -/
inductive Presents : List (List Char) → List Char → Prop
  | last {gap : List Char} (free : '"' ∉ gap) : Presents [] gap
  | quoted {gap text written data : List Char} {texts : List (List Char)} (free : '"' ∉ gap)
      (writes : Writes text written) (presents : Presents texts data) :
      Presents (text :: texts) (gap ++ '"' :: (written ++ '"' :: data))

/-! What reading does with each part of the data. -/

theorem segments_gap (gap rest : List Char) (free : '"' ∉ gap) :
    segments .outside (gap ++ rest) = segments .outside rest := by
  induction gap with
  | nil => rfl
  | cons c gap ih =>
      obtain ⟨notQuote, free⟩ := not_or.mp (mt List.mem_cons.mpr free)
      have step : Place.outside.next c = (.outside, none) := by
        rw [Place.next, if_neg (Ne.symm notQuote)]
      rw [List.cons_append, segments, step]
      exact ih free

theorem digitChar_isDigit : ∀ n < 10, (Nat.digitChar n).isDigit = true := by
  decide

theorem digitChar_value : ∀ n < 10, (Nat.digitChar n).toNat - '0'.toNat = n := by
  decide

theorem decimalOctets_digits (n : Nat) (small : n < 256) : decimalOctets [Nat.digitChar (n / 100),
    Nat.digitChar (n / 10 % 10), Nat.digitChar (n % 10)] = [n.toUInt8] := by
  have value : Text.digitsValue [Nat.digitChar (n / 100), Nat.digitChar (n / 10 % 10),
      Nat.digitChar (n % 10)] = n := by
    simp only [Text.digitsValue, List.foldl]
    rw [digitChar_value _ (by omega), digitChar_value _ (by omega), digitChar_value _ (by omega)]
    omega
  rw [decimalOctets, value]
  exact if_pos small

theorem push_push (octets first second : List UInt8) :
    push (push octets first) second = push octets (first ++ second) := by
  simp only [push, List.reverse_append, List.append_assoc]

theorem segments_decimalEscape (octets : List UInt8) (octet : UInt8) (rest : List Char) :
    segments (.inside octets) (decimalEscape octet ++ rest) =
      segments (.inside (push octets [octet])) rest := by
  have small : octet.toNat < 256 := octet.toNat_lt
  have hundreds := digitChar_isDigit (octet.toNat / 100) (by omega)
  have tens := digitChar_isDigit (octet.toNat / 10 % 10) (by omega)
  have ones := digitChar_isDigit (octet.toNat % 10) (by omega)
  have value := decimalOctets_digits octet.toNat small
  rw [show octet.toNat.toUInt8 = octet from UInt8.ofNat_toNat] at value
  simp [decimalEscape, segments, Place.next, readInside, hundreds, tens, ones, value]

theorem segments_octets (read new : List UInt8) (rest : List Char) :
    segments (.inside read) (new.flatMap decimalEscape ++ rest) =
      segments (.inside (push read new)) rest := by
  induction new generalizing read with
  | nil => rfl
  | cons octet others ih =>
      rw [List.flatMap_cons, List.append_assoc, segments_decimalEscape, ih, push_push]
      rfl

theorem segments_spelled (octets : List UInt8) (c : Char) (spelled rest : List Char)
    (spells : Spells c spelled) :
    segments (.inside octets) (spelled ++ rest) =
      segments (.inside (push octets (String.utf8EncodeChar c))) rest := by
  cases spells with
  | plain notQuote notEscape => simp [segments, Place.next, readInside, notQuote, notEscape]
  | escaped notDigit => simp [segments, Place.next, readInside, notDigit]
  | decimal => exact segments_octets octets _ rest

theorem segments_written (octets : List UInt8) (text written rest : List Char)
    (writes : Writes text written) :
    segments (.inside octets) (written ++ '"' :: rest) =
      (octets.reverse ++ Utf8.encode text) :: segments .outside rest := by
  induction writes generalizing octets with
  | nil => simp [segments, Place.next, readInside, Utf8.encode]
  | cons spells _ ih =>
      rw [List.append_assoc, segments_spelled octets _ _ _ spells, ih]
      simp [push, Utf8.encode]

theorem segments_presented (texts : List (List Char)) (data : List Char)
    (presents : Presents texts data) :
    segments .outside data = texts.map Utf8.encode := by
  induction presents with
  | last free =>
      rename_i gap
      have all := segments_gap gap [] free
      rw [List.append_nil] at all
      exact all
  | quoted free writes _ ih =>
      rw [segments_gap _ _ free, segments, List.map_cons, ← ih]
      exact segments_written [] _ _ _ writes

/-! Trimming shortens the outer gaps and nothing else. -/

theorem presents_trimStart (texts : List (List Char)) (data : List Char)
    (presents : Presents texts data) : Presents texts (Text.trimStart data) := by
  cases presents with
  | last free => exact .last (mt (List.dropWhile_sublist _).mem free)
  | @quoted gap text written data texts free writes presents =>
      have shorter : Text.trimStart (gap ++ '"' :: (written ++ '"' :: data)) =
          Text.trimStart gap ++ '"' :: (written ++ '"' :: data) :=
        Text.dropWhile_append_cons Text.isBlank gap _ '"' (by decide)
      rw [shorter]
      exact .quoted (mt (List.dropWhile_sublist _).mem free) writes presents

theorem presents_trimEnd (texts : List (List Char)) (data : List Char)
    (presents : Presents texts data) : Presents texts (Text.trimEnd data) := by
  induction presents with
  | last free => exact .last (mt (Text.mem_of_mem_dropTail _ _ _) free)
  | @quoted gap text written data texts free writes _ ih =>
      have split : gap ++ '"' :: (written ++ '"' :: data) =
          (gap ++ '"' :: written) ++ '"' :: data := by
        simp only [List.append_assoc, List.cons_append]
      rw [split, Text.trimEnd, Text.dropTail_append_cons _ _ _ '"' (by decide), List.append_assoc]
      exact .quoted free writes ih

theorem quote_mem (texts : List (List Char)) (data : List Char) (presents : Presents texts data)
    (nonempty : texts ≠ []) : '"' ∈ data := by
  cases presents with
  | last _ => exact absurd rfl nonempty
  | quoted _ _ _ => exact List.mem_append_right _ List.mem_cons_self

theorem segmentText_encode (text : List Char) : segmentText (Utf8.encode text) = text.take 255 := by
  rw [segmentText, Utf8.decodeLossy_encode]
  rfl

theorem texts_kept (texts : List String) :
    ((((texts.map String.toList).map Utf8.encode).map segmentText).filter (!·.isEmpty)).map
        String.ofList =
      (texts.filter (· ≠ "")).map fun text => String.ofList (text.toList.take 255) := by
  have cut : (texts.map String.toList).map (segmentText ∘ Utf8.encode) =
      texts.map fun text => text.toList.take 255 := by
    rw [List.map_map]
    exact List.map_congr_left fun text _ => segmentText_encode text.toList
  have kept : ∀ text : String, (!(text.toList.take 255).isEmpty) = decide (text ≠ "") := by
    intro text
    rw [Bool.eq_iff_iff]
    simp
  rw [List.map_map, cut, List.filter_map, List.map_map]
  exact congrArg (List.map _) (List.filter_congr fun text _ => kept text)

/-- Reading data in presentation form undoes the writing of it: the texts come back, each cut
to 255 characters, the empty ones left out and a space between the others. -/
theorem reconstruct_presented (texts : List String) (data : String) (nonempty : texts ≠ [])
    (presents : Presents (texts.map String.toList) data.toList) :
    reconstruct data = " ".intercalate
      ((texts.filter (· ≠ "")).map fun text => String.ofList (text.toList.take 255)) := by
  have trimmed : Presents (texts.map String.toList) (Text.trim data.toList) :=
    presents_trimEnd _ _ (presents_trimStart _ _ presents)
  have quoted : (Text.trim data.toList).contains '"' = true :=
    List.contains_iff_mem.mpr (quote_mem _ _ trimmed (by simpa using nonempty))
  rw [reconstruct]
  simp only [quoted, ↓reduceIte]
  rw [segments_presented _ _ trimmed, texts_kept]
  rfl

def mixedData : String := "x\\\"\\195\\169\\\"1\" \"\"\\\"a\\\\b\" ;"

theorem mixedData_presented : ["é\"1", "", "a\\b"] ≠ [] ∧
    Presents (["é\"1", "", "a\\b"].map String.toList) mixedData.toList ∧
    reconstruct mixedData = "é\"1 a\\b" := by
  have parts : mixedData.toList = ['x', '\\'] ++ '"' :: (((String.utf8EncodeChar 'é').flatMap
        decimalEscape ++ (['\\', '"'] ++ (['1'] ++ []))) ++ '"' :: ([' '] ++ '"' :: ([] ++ '"' ::
          (['\\'] ++ '"' :: ((['a'] ++ (['\\', '\\'] ++ (['b'] ++ []))) ++ '"' ::
            [' ', ';']))))) := by
    decide +kernel
  have presents : Presents (["é\"1", "", "a\\b"].map String.toList) mixedData.toList := by
    have accented : Writes ['é', '"', '1'] _ :=
      .cons .decimal (.cons (.escaped (by decide)) (.cons (.plain (by decide) (by decide)) .nil))
    have plain : Writes ['a', '\\', 'b'] _ :=
      .cons (.plain (by decide) (by decide)) (.cons (.escaped (by decide))
        (.cons (.plain (by decide) (by decide)) .nil))
    rw [parts]
    exact .quoted (by decide) accented (.quoted (by decide) .nil (.quoted (by decide) plain
      (.last (by decide))))
  refine ⟨by decide, presents, ?_⟩
  rw [reconstruct_presented _ _ (by decide) presents]
  decide +kernel

end SenderAudit.Txt
