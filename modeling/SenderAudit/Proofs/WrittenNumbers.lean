import SenderAudit.Lookup.Mx
import SenderAudit.Proofs.Dmarc.RecordCounts
import SenderAudit.Proofs.Json.Words
import SenderAudit.Proofs.NetworkCase
import SenderAudit.Proofs.PresentationForm
import SenderAudit.Proofs.Reports
import SenderAudit.Proofs.Spf.Targets
import SenderAudit.Proofs.TagValues

/-!
The numbers of records: the lengths of networks, the percentage of a policy and the preferences
of mail exchangers. Each is written in decimal digits, which may have a plus sign before them.
-/
namespace SenderAudit

namespace Text

inductive Numeral : List Char → Nat → Prop
  | digit {d : Nat} (small : d < 10) : Numeral [Nat.digitChar d] d
  | append {s : List Char} {n d : Nat} (start : Numeral s n) (small : d < 10) :
      Numeral (s ++ [Nat.digitChar d]) (10 * n + d)

/-- A number as it may stand in a record. -/
inductive Denotes : List Char → Nat → Prop
  | plain {s : List Char} {n : Nat} (numeral : Numeral s n) : Denotes s n
  | signed {s : List Char} {n : Nat} (numeral : Numeral s n) : Denotes ('+' :: s) n

theorem digitsValue_append (s : List Char) (c : Char) :
    digitsValue (s ++ [c]) = 10 * digitsValue s + (c.toNat - '0'.toNat) := by
  rw [digitsValue, List.foldl_append]
  rfl

theorem digitChar_of_isDigit (c : Char) (digit : c.isDigit = true) :
    ∃ d < 10, c = Nat.digitChar d := by
  obtain ⟨small, same⟩ := Json.digitChar_value c digit
  exact ⟨c.toNat - '0'.toNat, small, same.symm⟩

theorem numeral_iff (s : List Char) (n : Nat) :
    Numeral s n ↔ isDigits s = true ∧ digitsValue s = n := by
  constructor
  · intro numeral
    induction numeral with
    | digit small =>
        constructor
        · simp [isDigits, Txt.digitChar_isDigit _ small]
        · simpa [digitsValue] using Txt.digitChar_value _ small
    | append start small ih =>
        obtain ⟨digits, value⟩ := ih
        rw [digitsValue_append, value, Txt.digitChar_value _ small]
        refine ⟨?_, rfl⟩
        rw [isDigits, Bool.and_eq_true] at digits
        simp [isDigits, digits.2, Txt.digitChar_isDigit _ small]
  · rintro ⟨digits, rfl⟩
    induction s using List.reverseRecOn with
    | nil => cases digits
    | append_singleton s c ih =>
        simp only [isDigits, List.all_append, Bool.and_eq_true, List.all_cons, List.all_nil,
          and_true] at digits
        obtain ⟨_, start, last⟩ := digits
        obtain ⟨d, small, rfl⟩ := digitChar_of_isDigit c last
        rw [digitsValue_append, Txt.digitChar_value d small]
        rcases s with _ | ⟨first, rest⟩
        · exact (Nat.zero_add d).symm ▸ .digit small
        · exact .append (ih (by simpa [isDigits] using start)) small

theorem Numeral.isDigit_of_mem {s : List Char} {n : Nat} (numeral : Numeral s n) :
    ∀ c ∈ s, c.isDigit = true := by
  obtain ⟨digits, _⟩ := (numeral_iff s n).mp numeral
  rw [isDigits, Bool.and_eq_true, List.all_eq_true] at digits
  exact digits.2

theorem signed_not_numeral (s : List Char) (n : Nat) : ¬ Numeral ('+' :: s) n := by
  intro numeral
  exact absurd (numeral.isDigit_of_mem '+' List.mem_cons_self) (by decide)

theorem Numeral.unsigned {s : List Char} {n : Nat} (numeral : Numeral s n) :
    afterPlus s = s := by
  unfold afterPlus
  split
  · exact absurd numeral (signed_not_numeral _ n)
  · rfl

theorem Denotes.numeral_iff_unsigned {s : List Char} {n : Nat} (denotes : Denotes s n) :
    Numeral s n ↔ s.head? ≠ some '+' := by
  cases denotes with
  | plain numeral =>
      refine ⟨fun _ isSigned => ?_, fun _ => numeral⟩
      obtain ⟨rest, rfl⟩ := List.head?_eq_some_iff.mp isSigned
      exact signed_not_numeral rest n numeral
  | signed _ => simp [signed_not_numeral]

theorem Denotes.no_slash {s : List Char} {n : Nat} (denotes : Denotes s n) : '/' ∉ s := by
  have noDigit : ∀ {digits}, Numeral digits n → '/' ∉ digits := by
    intro digits numeral member
    exact absurd (numeral.isDigit_of_mem '/' member) (by decide)
  cases denotes with
  | plain numeral => exact noDigit numeral
  | signed numeral => simpa using noDigit numeral

theorem denotes_iff (s : List Char) (n : Nat) : Denotes s n ↔ Numeral (afterPlus s) n := by
  constructor
  · intro denotes
    cases denotes with
    | plain numeral => rwa [numeral.unsigned]
    | signed numeral => exact numeral
  · intro numeral
    unfold afterPlus at numeral
    split at numeral
    · exact .signed numeral
    · exact .plain numeral

theorem decimal?_eq_some (limit : Nat) (s : List Char) (n : Nat) :
    decimal? limit s = some n ↔ Denotes s n ∧ n ≤ limit := by
  rw [denotes_iff, numeral_iff, decimal?]
  constructor
  · intro read
    split at read
    · rename_i fits
      obtain rfl := Option.some.inj read
      rw [Bool.and_eq_true, decide_eq_true_eq] at fits
      exact ⟨⟨fits.1, rfl⟩, fits.2⟩
    · cases read
  · rintro ⟨⟨digits, rfl⟩, small⟩
    exact if_pos (by rw [digits, Bool.true_and]; exact decide_eq_true small)

end Text

namespace Spf

/-- An address alone, or an address, a slash and a number of at most `maxLength`, which may be
written as `writes` says. -/
inductive Network (writes : List Char → Nat → Prop) (isAddress : List Char → Bool)
    (maxLength : Nat) : List Char → Prop
  | address {s : List Char} (valid : isAddress s = true) (whole : '/' ∉ s) :
      Network writes isAddress maxLength s
  | sized {s length : List Char} {n : Nat} (valid : isAddress s = true) (first : '/' ∉ s)
      (written : writes length n) (small : n ≤ maxLength) :
      Network writes isAddress maxLength (s ++ '/' :: length)

theorem network_iff (writes : List Char → Nat → Prop) (isAddress : List Char → Bool)
    (maxLength : Nat) (s : List Char) :
    Network writes isAddress maxLength s ↔ match Text.cut '/' s with
      | some (address, length) => isAddress address = true ∧ ∃ n ≤ maxLength, writes length n
      | none => isAddress s = true := by
  constructor
  · intro network
    cases network with
    | address valid whole => rwa [Text.cut_eq_none '/' s whole]
    | sized valid first written small =>
        rw [Text.cut_append '/' _ _ first]
        exact ⟨valid, _, small, written⟩
  · intro parts
    rcases Text.cut_cases '/' s with ⟨address, length, rfl, first, split⟩ | ⟨whole, unsplit⟩
    · rw [split] at parts
      obtain ⟨valid, n, small, written⟩ := parts
      exact .sized valid first written small
    · rw [unsplit] at parts
      exact .address parts whole

/-- A sign right after a slash is the sign of the length. -/
theorem signed_length_iff {s length : List Char} (first : '/' ∉ s) (last : '/' ∉ length) :
    ['/', '+'] <:+: s ++ '/' :: length ↔ length.head? = some '+' := by
  constructor
  · rintro ⟨before, after, split⟩
    rw [List.append_assoc, List.append_eq_append_iff] at split
    rcases split with ⟨between, rfl, rest⟩ | ⟨between, rfl, rest⟩
    · rcases between with _ | ⟨c, between⟩
      · obtain ⟨_, rfl⟩ := List.cons.inj rest
        rfl
      · obtain ⟨rfl, _⟩ := List.cons.inj rest
        simp at first
    · rcases between with _ | ⟨c, between⟩
      · obtain ⟨_, rfl⟩ := List.cons.inj rest
        rfl
      · obtain ⟨_, rfl⟩ := List.cons.inj rest
        simp at last
  · intro isSigned
    obtain ⟨rest, rfl⟩ := List.head?_eq_some_iff.mp isSigned
    exact ⟨s, rest, by simp⟩

theorem Network.numeral_iff_unsigned {isAddress : List Char → Bool} {maxLength : Nat}
    {s : List Char} (network : Network Text.Denotes isAddress maxLength s) :
    Network Text.Numeral isAddress maxLength s ↔ ¬ ['/', '+'] <:+: s := by
  cases network with
  | address valid whole =>
      have unsized : ¬ ['/', '+'] <:+: _ := fun signed => whole (signed.mem List.mem_cons_self)
      exact iff_of_true (.address valid whole) unsized
  | sized valid first written small =>
      rw [signed_length_iff first written.no_slash]
      constructor
      · intro plain isSigned
        obtain ⟨rest, rfl⟩ := List.head?_eq_some_iff.mp isSigned
        rw [network_iff, Text.cut_append '/' _ _ first] at plain
        obtain ⟨_, m, _, numeral⟩ := plain
        exact Text.signed_not_numeral rest m numeral
      · intro unsigned
        exact .sized valid first (written.numeral_iff_unsigned.mpr unsigned) small

theorem isNetwork_iff (isAddress : List Char → Bool) (maxLength : Nat) (s : List Char) :
    isNetwork isAddress maxLength s = true ↔ Network Text.Denotes isAddress maxLength s := by
  rw [network_iff, isNetwork]
  cases Text.cut '/' s with
  | none => rfl
  | some parts =>
      simp only [Bool.and_eq_true, Option.isSome_iff_exists, Text.decimal?_eq_some, and_comm]

def Gives (text : String) (m : Mechanism) (value : List Char) : Prop :=
  ∃ word ∈ laterWords text, States word (.mechanism m.name.toList (some value))

section Networks

variable {domain text : String} {r : Record} {warnings : List Warning}
  (read : Record.parse domain text = .ok (r, warnings))

include read

/-- The networks among the values of a mechanism are kept, each as it is spelled. -/
theorem mem_networks (m : Mechanism) (spell : List Char → List Char)
    {isAddress : List Char → Bool} {maxLength : Nat}
    (accepts : ∀ given, m.accepts domain given = given.bind fun network =>
      if isNetwork isAddress maxLength network then some (String.ofList (spell network)) else none)
    (value : String) :
    value ∈ r.kept m ↔ ∃ given, Gives text m given ∧ value.toList = spell given ∧
      isNetwork isAddress maxLength given = true := by
  obtain ⟨_, d, taken, rfl, _⟩ := (parse_ok_iff domain text r warnings).mp read
  rw [mem_kept (takeTerms_accounts domain (laterWords text) d taken)]
  constructor
  · rintro ⟨word, inWords, given, states, accepted⟩
    rw [accepts, Option.bind_eq_some_iff] at accepted
    obtain ⟨network, rfl, kept⟩ := accepted
    split at kept
    · rename_i isNetwork
      obtain rfl := Option.some.inj kept
      exact ⟨network, ⟨word, inWords, states⟩, String.toList_ofList, isNetwork⟩
    · cases kept
  · rintro ⟨given, ⟨word, inWords, states⟩, spelled, isNetwork⟩
    refine ⟨word, inWords, _, states, ?_⟩
    rw [accepts, Option.bind_some, if_pos isNetwork, ← spelled, String.ofList_toList]

theorem mem_ip4 (value : String) :
    value ∈ r.ip4 ↔ Gives text .ip4 value.toList ∧
      Network Text.Denotes Ipv4.isAddress 32 value.toList := by
  have member := mem_networks read .ip4 id (fun given => rfl) value
  rw [Record.kept] at member
  rw [member, ← isNetwork_iff]
  constructor
  · rintro ⟨given, gives, rfl, isNetwork⟩
    exact ⟨gives, isNetwork⟩
  · rintro ⟨gives, isNetwork⟩
    exact ⟨_, gives, rfl, isNetwork⟩

theorem mem_ip6 (value : String) :
    value ∈ r.ip6 ↔ (∃ given, Gives text .ip6 given ∧ value.toList = Text.lower given) ∧
      Network Text.Denotes Ipv6.isAddress 128 value.toList := by
  have member := mem_networks read .ip6 Text.lower (fun given => rfl) value
  rw [Record.kept] at member
  rw [member, ← isNetwork_iff]
  constructor
  · rintro ⟨given, gives, lowered, isNetwork⟩
    rw [lowered, isNetwork_lower Ipv6.isAddress_lower]
    exact ⟨⟨given, gives, rfl⟩, isNetwork⟩
  · rintro ⟨⟨given, gives, lowered⟩, isNetwork⟩
    rw [lowered, isNetwork_lower Ipv6.isAddress_lower] at isNetwork
    exact ⟨given, gives, lowered, isNetwork⟩

end Networks

end Spf

namespace Dmarc

theorem readPercentage_eq_some (value : Option (List Char)) (n : Nat) :
    (readPercentage value).1 = some n ↔
      ∃ given, value = some given ∧ Text.Denotes given n ∧ n ≤ 100 := by
  cases value with
  | none => simp [readPercentage]
  | some given =>
      have read : (readPercentage (some given)).1 = Text.decimal? 100 given := by
        rw [readPercentage]
        split <;> simp_all
      rw [read, Text.decimal?_eq_some]
      simp

theorem percentage_iff (resolver : Resolver) (domain : String) (n : Nat) :
    (check resolver domain).1.percentage = some n ↔
      ∃ record value, (check resolver domain).1.record = some record ∧
        Text.Assigns record.toList "pct".toList value ∧ Text.Denotes value n ∧ n ≤ 100 := by
  have unread : ∀ o : Outcome, o.percentage = none → o.record = none →
      (o.percentage = some n ↔ ∃ record value, o.record = some record ∧
        Text.Assigns record.toList "pct".toList value ∧ Text.Denotes value n ∧ n ≤ 100) := by
    intro o noPercentage noRecord
    simp [noPercentage, noRecord]
  cases named : policyName domain with
  | error failure =>
      rw [check, named]
      exact unread _ rfl rfl
  | ok name =>
      cases answered : (resolver name).texts with
      | error failure =>
          simp only [check, named, answered, assess]
          exact unread _ rfl rfl
      | ok answers =>
          cases found : candidates answers with
          | nil =>
              simp only [check, named, answered, assess, found]
              exact unread _ rfl rfl
          | cons text others =>
              rw [check_of_records named answered found, readPolicy_percentage,
                readPolicy_record]
              simp only [readOptionalTags, readPercentage_eq_some,
                Text.lastValue?_assigns "pct" (by decide), Option.some.injEq, exists_and_left,
                exists_eq_left', String.toList_ofList]

end Dmarc

namespace MailExchanger

theorem parse?_eq_some (data : String) (mx : MailExchanger) :
    parse? data = some mx ↔ ∃ preference host, Text.words data.toList = [preference, host] ∧
      Text.Denotes preference mx.preference ∧ mx.preference ≤ 65535 ∧
      hostName host ≠ [] ∧ mx.host = String.ofList (hostName host) := by
  unfold parse?
  split
  · rename_i preference host split
    rw [split, Option.bind_eq_bind, Option.bind_eq_some_iff]
    constructor
    · rintro ⟨n, read, kept⟩
      obtain ⟨denotes, small⟩ := (Text.decimal?_eq_some _ _ n).mp read
      dsimp only at kept
      split at kept
      · cases kept
      · rename_i named
        obtain rfl := Option.some.inj kept
        exact ⟨preference, host, rfl, denotes, small, mt List.isEmpty_iff.mpr named, rfl⟩
    · rintro ⟨_, _, ⟨⟩, denotes, small, named, isHost⟩
      refine ⟨mx.preference, (Text.decimal?_eq_some _ _ _).mpr ⟨denotes, small⟩, ?_⟩
      rw [if_neg (mt List.isEmpty_iff.mp named), ← isHost]
  · rename_i other
    constructor
    · rintro ⟨⟩
    · rintro ⟨preference, host, split, _⟩
      exact absurd split (other preference host)

end MailExchanger

/-- The networks of a record are an address, alone or with a slash and a number after it; the
percentage of a policy is the number that the last `pct` gives, and the preference of an
exchanger is the number in the first of its two words. The numbers are bounded, and each is
written in digits, except where a plus sign stands before them. -/
theorem numbers_in_records (domain text data : String) (resolver : Resolver) :
    (∀ r warnings, Spf.Record.parse domain text = .ok (r, warnings) →
      (∀ value, value ∈ r.ip4 ↔ Spf.Gives text .ip4 value.toList ∧
        Spf.Network Text.Denotes Ipv4.isAddress 32 value.toList) ∧
      (∀ value, value ∈ r.ip6 ↔
        (∃ given, Spf.Gives text .ip6 given ∧ value.toList = Text.lower given) ∧
          Spf.Network Text.Denotes Ipv6.isAddress 128 value.toList) ∧
      (∀ value ∈ r.ip4, Spf.Network Text.Numeral Ipv4.isAddress 32 value.toList ↔
        ¬ ['/', '+'] <:+: value.toList) ∧
      ∀ value ∈ r.ip6, Spf.Network Text.Numeral Ipv6.isAddress 128 value.toList ↔
        ¬ ['/', '+'] <:+: value.toList) ∧
    (∀ n, (Dmarc.check resolver domain).1.percentage = some n ↔
      ∃ record value, (Dmarc.check resolver domain).1.record = some record ∧
        Text.Assigns record.toList "pct".toList value ∧ Text.Denotes value n ∧ n ≤ 100) ∧
    (∀ mx, MailExchanger.parse? data = some mx ↔
      ∃ preference host, Text.words data.toList = [preference, host] ∧
        Text.Denotes preference mx.preference ∧ mx.preference ≤ 65535 ∧
        MailExchanger.hostName host ≠ [] ∧
        mx.host = String.ofList (MailExchanger.hostName host)) ∧
    ∀ s n, Text.Denotes s n → (Text.Numeral s n ↔ s.head? ≠ some '+') := by
  refine ⟨?_, Dmarc.percentage_iff resolver domain, MailExchanger.parse?_eq_some data,
    fun s n => Text.Denotes.numeral_iff_unsigned⟩
  intro r warnings read
  exact ⟨Spf.mem_ip4 read, Spf.mem_ip6 read,
    fun value kept => ((Spf.mem_ip4 read value).mp kept).2.numeral_iff_unsigned,
    fun value kept => ((Spf.mem_ip6 read value).mp kept).2.numeral_iff_unsigned⟩

def networksRecord : String := "v=spf1 ip4:192.0.2.0/24 ip6:2001:DB8::/032 -all"

def percentageZone : Resolver :=
  Dmarc.answeringZone ["v=DMARC1; p=none; pct=5; PCT = 050"]

theorem usualNumbers_in_records :
    (∃ r warnings, Spf.Record.parse "a.example" networksRecord = .ok (r, warnings) ∧
      r.ip4 = ["192.0.2.0/24"] ∧ r.ip6 = ["2001:db8::/032"] ∧
      Spf.Network Text.Numeral Ipv4.isAddress 32 "192.0.2.0/24".toList ∧
      Spf.Network Text.Numeral Ipv6.isAddress 128 "2001:db8::/032".toList) ∧
    (∃ record value, (Dmarc.check percentageZone "a.example").1.record = some record ∧
      Text.Assigns record.toList "pct".toList value ∧ Text.Denotes value 50 ∧ 50 ≤ 100) ∧
    ∃ preference host, Text.words "10 MX.example.".toList = [preference, host] ∧
      Text.Denotes preference 10 ∧ 10 ≤ 65535 ∧ MailExchanger.hostName host ≠ [] ∧
      "mx.example" = String.ofList (MailExchanger.hostName host) := by
  obtain ⟨networks, percentage, exchangers, _⟩ :=
    numbers_in_records "a.example" networksRecord "10 MX.example." percentageZone
  refine ⟨?_, (percentage 50).mp (by decide +kernel),
    (exchangers ⟨10, "mx.example"⟩).mp (by decide +kernel)⟩
  obtain ⟨⟨r, warnings⟩, read, holds⟩ := exists_ok_of_any
    (Spf.Record.parse "a.example" networksRecord)
    (fun (r, _) => r.ip4 = ["192.0.2.0/24"] ∧ r.ip6 = ["2001:db8::/032"]) (by decide +kernel)
  obtain ⟨ip4, ip6⟩ := of_decide_eq_true holds
  obtain ⟨_, _, plain4, plain6⟩ := networks r warnings read
  exact ⟨r, warnings, read, ip4, ip6,
    (plain4 _ (ip4 ▸ List.mem_singleton.mpr rfl)).mpr (by decide +kernel),
    (plain6 _ (ip6 ▸ List.mem_singleton.mpr rfl)).mpr (by decide +kernel)⟩

-- A number after a plus sign is read, although it is not written in digits alone.
theorem signedNumbers_in_records :
    (∃ r warnings, Spf.Record.parse "a.example" "v=spf1 ip4:192.0.2.0/+24 -all" =
        .ok (r, warnings) ∧ r.ip4 = ["192.0.2.0/+24"]) ∧
    ¬ Spf.Network Text.Numeral Ipv4.isAddress 32 "192.0.2.0/+24".toList ∧
    (Dmarc.check (Dmarc.answeringZone ["v=DMARC1; p=none; pct=+50"])
      "a.example").1.percentage = some 50 ∧
    Text.Assigns "v=DMARC1; p=none; pct=+50".toList "pct".toList "+50".toList ∧
    (∀ n, ¬ Text.Numeral "+50".toList n) ∧
    MailExchanger.parse? "+10 mx.example" = some ⟨10, "mx.example"⟩ ∧
    Text.words "+10 mx.example".toList = ["+10".toList, "mx.example".toList] ∧
    ∀ n, ¬ Text.Numeral "+10".toList n := by
  refine ⟨?_, ?_, by decide +kernel, ?_, Text.signed_not_numeral _, by decide +kernel,
    by decide +kernel, Text.signed_not_numeral _⟩
  · obtain ⟨⟨r, warnings⟩, read, holds⟩ := exists_ok_of_any
      (Spf.Record.parse "a.example" "v=spf1 ip4:192.0.2.0/+24 -all")
      (fun (r, _) => r.ip4 = ["192.0.2.0/+24"]) (by decide +kernel)
    exact ⟨r, warnings, read, of_decide_eq_true holds⟩
  · have split : Text.cut '/' "192.0.2.0/+24".toList =
        some ("192.0.2.0".toList, "+24".toList) := by
      decide +kernel
    rw [Spf.network_iff, split]
    rintro ⟨_, n, _, numeral⟩
    exact Text.signed_not_numeral _ n numeral
  · rw [Text.Assigns, ← Text.lastOf_eq_some]
    decide +kernel

end SenderAudit
