import Mathlib.Tactic.SplitIfs
import SenderAudit.Proofs.Dkim.SplitKeys
import SenderAudit.Proofs.Reports
import SenderAudit.Scorecard.Advice

/-!
The estimated sizes of RSA keys. The steps of the estimate ascend, and so do its values below
the lowest step; but there it counts all octets of the encoding as bits of the key, so that the
last keys below the step are taken for larger ones than the first keys on it.
-/
namespace SenderAudit.Dkim

/-- The length of a key without its padding. -/
def encodedLength (key : List Char) : Nat :=
  Utf8.length (Text.dropTail (· == '=') key)

def bitsOfOctets (octets : Nat) : Nat :=
  match rsaSteps.find? (·.1 ≤ octets) with
  | some (_, bits) => bits
  | none => octets * 8

theorem rsaBits_eq (key : List Char) : rsaBits key = bitsOfOctets (encodedLength key * 3 / 4) :=
  rfl

theorem bitsOfOctets_eq (octets : Nat) : bitsOfOctets octets =
    if 550 ≤ octets then 4096 else if 422 ≤ octets then 3072 else if 294 ≤ octets then 2048
    else if 162 ≤ octets then 1024 else if 94 ≤ octets then 512 else octets * 8 := by
  simp only [bitsOfOctets, rsaSteps, List.find?_cons, List.find?_nil]
  split_ifs <;> simp [*]

/-- The estimate ascends but for one dip: 65 to 93 octets are more than 512 bits, which is the
value of 94 to 161 octets. -/
theorem bitsOfOctets_le_iff (fewer more : Nat) (atMost : fewer ≤ more) :
    bitsOfOctets fewer ≤ bitsOfOctets more ↔
      ¬ (65 ≤ fewer ∧ fewer ≤ 93 ∧ 94 ≤ more ∧ more ≤ 161) := by
  rw [bitsOfOctets_eq, bitsOfOctets_eq]
  split_ifs <;> omega

/-- The first key has 87 to 125 characters, the second 126 to 215, each without padding. -/
def Overrated (key longer : List Char) : Prop :=
  87 ≤ encodedLength key ∧ encodedLength key ≤ 125 ∧
    126 ≤ encodedLength longer ∧ encodedLength longer ≤ 215

theorem rsaBits_le_iff (key longer : List Char)
    (notLonger : encodedLength key ≤ encodedLength longer) :
    rsaBits key ≤ rsaBits longer ↔ ¬ Overrated key longer := by
  have fewer : encodedLength key * 3 / 4 ≤ encodedLength longer * 3 / 4 :=
    Nat.div_le_div_right (Nat.mul_le_mul_right 3 notLonger)
  rw [rsaBits_eq, rsaBits_eq, bitsOfOctets_le_iff _ _ fewer, Overrated]
  omega

/-- A record with a key of RSA that is not revoked. -/
def HoldsRsaKey (record : String) (key : List Char) : Prop :=
  (KeyTags.read record.toList).keyType.getD "rsa" = "rsa" ∧
    (KeyTags.read record.toList).publicKey = key ∧ key ≠ []

def FindsRsaKey (o : Outcome) (key : List Char) : Prop :=
  (∃ resolver domain selector, o = (probe resolver domain selector).1) ∧
    ∃ record, o.record = some record ∧ HoldsRsaKey record key

theorem assessRecord_record (o : Outcome) (record : String) :
    (assessRecord o record).record = some record := by
  simp only [assessRecord]
  split <;> rfl

theorem assessRecord_keyBits (o : Outcome) (record : String) (key : List Char)
    (holds : HoldsRsaKey record key) : (assessRecord o record).keyBits = some (rsaBits key) := by
  obtain ⟨isRsa, rfl, nonempty⟩ := holds
  simp [assessRecord, isRsa, nonempty, keyBits?]

theorem assess_of_record (o : Outcome) (name : DomainName)
    (answer : Except LookupFailure (List String)) (record : String) (fresh : o.record = none)
    (found : (assess o name answer).record = some record) :
    assess o name answer = assessRecord o record := by
  cases answer with
  | error failure => exact absurd (fresh.symm.trans found) (Option.some_ne_none record).symm
  | ok answers =>
      rw [assess] at found ⊢
      cases held : findRecord? answers with
      | none =>
          rw [held] at found
          exact absurd (fresh.symm.trans found) (Option.some_ne_none record).symm
      | some first =>
          rw [held] at found
          dsimp only at found ⊢
          rw [assessRecord_record, Option.some.injEq] at found
          rw [found]

theorem probe_of_record (resolver : Resolver) (domain selector record : String)
    (found : (probe resolver domain selector).1.record = some record) :
    ∃ o, (probe resolver domain selector).1 = assessRecord o record := by
  unfold probe at found ⊢
  dsimp only at found ⊢
  split at found
  · cases found
  · rename_i isSelector
    rw [if_neg isSelector]
    split at found
    · cases found
    · exact ⟨_, assess_of_record _ _ _ record rfl found⟩

theorem FindsRsaKey.keyBits {o : Outcome} {key : List Char} (finds : FindsRsaKey o key) :
    o.keyBits = some (rsaBits key) := by
  obtain ⟨⟨resolver, domain, selector, rfl⟩, record, found, holds⟩ := finds
  obtain ⟨before, isRead⟩ := probe_of_record resolver domain selector record found
  rw [isRead, assessRecord_keyBits before record key holds]

end SenderAudit.Dkim

namespace SenderAudit.Scorecard

/-- The stronger of two keys, the second one among equals. -/
def stronger (best key : KeyFacts) : KeyFacts :=
  if best.size ≤ key.size then key else best

theorem strongest?_cons (key : KeyFacts) (rest : List KeyFacts) :
    strongest? (key :: rest) = some (rest.foldl stronger key) := by
  rw [strongest?, List.foldl_cons]
  induction rest generalizing key with
  | nil => rfl
  | cons next others ih =>
      rw [List.foldl_cons, List.foldl_cons, ← ih, stronger]
      dsimp only
      split <;> rfl

theorem size_le_stronger (best key : KeyFacts) :
    best.size ≤ (stronger best key).size ∧ key.size ≤ (stronger best key).size := by
  rw [stronger]
  split <;> omega

theorem size_le_foldl (rest : List KeyFacts) (first : KeyFacts) :
    ∀ key ∈ first :: rest, key.size ≤ (rest.foldl stronger first).size := by
  induction rest generalizing first with
  | nil => simp
  | cons next others ih =>
      intro key member
      obtain ⟨ofFirst, ofNext⟩ := size_le_stronger first next
      have kept := ih (stronger first next) _ List.mem_cons_self
      rw [List.foldl_cons]
      rcases List.mem_cons.mp member with rfl | later
      · exact Nat.le_trans ofFirst kept
      · rcases List.mem_cons.mp later with rfl | further
        · exact Nat.le_trans ofNext kept
        · exact ih _ key (List.mem_cons_of_mem _ further)

theorem size_le_strongest (keys : List KeyFacts) (best : KeyFacts)
    (chosen : strongest? keys = some best) : ∀ key ∈ keys, key.size ≤ best.size := by
  cases keys with
  | nil => cases chosen
  | cons first rest =>
      rw [strongest?_cons] at chosen
      cases chosen
      exact size_le_foldl rest first

end SenderAudit.Scorecard

namespace SenderAudit.Dkim

open Scorecard (KeyFacts strongest?)

/-- Of two keys of RSA the longer one has an estimate at least as large, unless the shorter one
has 87 to 125 characters and the longer one 126 to 215. Outside of that gap, a key that counts as
the strongest although there is a longer one has the same estimate as that. -/
theorem keyBits_of_longer {o other : Outcome} {key longer : List Char}
    (finds : FindsRsaKey o key) (findsLonger : FindsRsaKey other longer)
    (notLonger : encodedLength key ≤ encodedLength longer) :
    ∃ bits more, o.keyBits = some bits ∧ other.keyBits = some more ∧
      (bits ≤ more ↔ ¬ Overrated key longer) ∧
      (¬ Overrated key longer → ∀ keys, strongest? keys = some (KeyFacts.of o) →
        KeyFacts.of other ∈ keys → bits = more) := by
  have ascends := rsaBits_le_iff key longer notLonger
  refine ⟨rsaBits key, rsaBits longer, finds.keyBits, findsLonger.keyBits, ascends, ?_⟩
  intro wellRated keys chosen present
  have surpassed := Scorecard.size_le_strongest keys _ chosen _ present
  simp only [KeyFacts.size, KeyFacts.of, finds.keyBits, findsLonger.keyBits,
    Option.getD_some] at surpassed
  exact Nat.le_antisymm (ascends.mpr wellRated) surpassed

def keyOfLength (length : Nat) : List Char :=
  List.replicate length 'A' ++ ['=']

theorem encodedLength_keyOfLength (length : Nat) : encodedLength (keyOfLength length) = length := by
  have unpadded : Text.dropTail (· == '=') (keyOfLength length) = List.replicate length 'A' := by
    cases length with
    | zero => rfl
    | succ shorter =>
        rw [keyOfLength, List.replicate_succ', List.append_assoc, List.singleton_append,
          Text.dropTail_append_cons _ _ _ 'A' (by decide)]
        rfl
  have octets : (List.replicate length 'A').map Char.utf8Size = List.replicate length 1 := by
    rw [List.map_replicate]
    rfl
  rw [encodedLength, unpadded, Utf8.length, octets, ← List.sum_eq_foldr, List.sum_replicate_nat,
    Nat.mul_one]

def onlyKey : KeyPlace where
  front := "v=DKIM1".toList
  name := " p".toList
  after := []
  opens := ⟨"v=DKIM1".toList, [], [], by decide, by decide, by simp⟩
  isKey := by decide
  onePart := by decide
  ends := Or.inl rfl

def keyZone (length : Nat) : Resolver := fun _ =>
  ⟨.ok [String.ofList (onlyKey.record (keyOfLength length))], 0⟩

def probeKey (length : Nat) : Outcome :=
  (probe (keyZone length) "a.example" "s1").1

theorem onlyKey_holds (length : Nat) : HoldsRsaKey
    (String.ofList (Text.trim (onlyKey.record (keyOfLength length)))) (keyOfLength length) := by
  have onePart : ';' ∉ keyOfLength length := by
    simp [keyOfLength]
  have solid : Text.solids (keyOfLength length) = keyOfLength length := by
    apply List.filter_eq_self.mpr
    intro c member
    rcases List.mem_append.mp member with letter | padding
    · rw [List.eq_of_mem_replicate letter]
      decide
    · rw [List.mem_singleton.mp padding]
      decide
  obtain ⟨rest, isRest, restPart, same⟩ := onlyKey.trim_record (keyOfLength length) onePart
  have noTags : onlyKey.trimmed.later = [] := by decide
  have noType : Text.lastValue? "k" (Text.tags false onlyKey.trimmed.front) = none := by decide
  rw [HoldsRsaKey, String.toList_ofList, isRest, onlyKey.trimmed.read_record rest restPart, noTags,
    noType, same, solid]
  exact ⟨rfl, rfl, List.append_ne_nil_of_right_ne_nil _ (List.cons_ne_nil _ _)⟩

theorem probeKey_finds (length : Nat) : FindsRsaKey (probeKey length) (keyOfLength length) := by
  refine ⟨⟨keyZone length, "a.example", "s1", rfl⟩, _, ?_, onlyKey_holds length⟩
  have isSelector : (!isValidSelector (Text.trimmed "s1")) = false := by decide +kernel
  obtain ⟨name, named, _⟩ := exists_ok_of_any (keyName (Text.trimmed "s1") "a.example")
    (fun _ => true) (by decide +kernel)
  have isRead := assess_append { selector := Text.trimmed "s1", domain := "a.example" } name [] []
    _ _ (onlyKey.recordIn?_record (keyOfLength length))
  rw [List.nil_append] at isRead
  simp only [probeKey, probe, isSelector, Bool.false_eq_true, ↓reduceIte, named, keyZone, isRead]
  exact assessRecord_record _ _

theorem probeKey_keyBits (length : Nat) :
    (probeKey length).keyBits = some (bitsOfOctets (length * 3 / 4)) := by
  rw [(probeKey_finds length).keyBits, rsaBits_eq, encodedLength_keyOfLength]

theorem usualKeys_of_longer :
    FindsRsaKey (probeKey 216) (keyOfLength 216) ∧ FindsRsaKey (probeKey 392) (keyOfLength 392) ∧
    encodedLength (keyOfLength 216) ≤ encodedLength (keyOfLength 392) ∧
    ¬ Overrated (keyOfLength 216) (keyOfLength 392) ∧
    (probeKey 216).keyBits = some 1024 ∧ (probeKey 392).keyBits = some 2048 ∧
    ∃ bits more, (probeKey 216).keyBits = some bits ∧ (probeKey 392).keyBits = some more ∧
      bits ≤ more := by
  have notLonger : encodedLength (keyOfLength 216) ≤ encodedLength (keyOfLength 392) := by
    simp only [encodedLength_keyOfLength]
    decide
  have wellRated : ¬ Overrated (keyOfLength 216) (keyOfLength 392) := by
    simp only [Overrated, encodedLength_keyOfLength]
    decide
  obtain ⟨bits, more, isFirst, isSecond, ascends, _⟩ :=
    keyBits_of_longer (probeKey_finds 216) (probeKey_finds 392) notLonger
  exact ⟨probeKey_finds 216, probeKey_finds 392, notLonger, wellRated, probeKey_keyBits 216,
    probeKey_keyBits 392, bits, more, isFirst, isSecond, ascends.mpr wellRated⟩

-- 93 octets are taken for more bits than 96, and the shorter key counts as the strongest.
theorem shorterKey_counts_as_strongest :
    FindsRsaKey (probeKey 124) (keyOfLength 124) ∧ FindsRsaKey (probeKey 128) (keyOfLength 128) ∧
    encodedLength (keyOfLength 124) < encodedLength (keyOfLength 128) ∧
    (probeKey 124).keyBits = some 744 ∧ (probeKey 128).keyBits = some 512 ∧
    strongest? [KeyFacts.of (probeKey 124), KeyFacts.of (probeKey 128)] =
      some (KeyFacts.of (probeKey 124)) := by
  have shorter : (probeKey 124).keyBits = some 744 := probeKey_keyBits 124
  have longer : (probeKey 128).keyBits = some 512 := probeKey_keyBits 128
  refine ⟨probeKey_finds 124, probeKey_finds 128, ?_, shorter, longer, ?_⟩
  · simp only [encodedLength_keyOfLength]
    decide
  · rw [Scorecard.strongest?_cons, List.foldl_cons, List.foldl_nil, Scorecard.stronger, if_neg]
    simp only [KeyFacts.size, KeyFacts.of, shorter, longer]
    decide

end SenderAudit.Dkim
