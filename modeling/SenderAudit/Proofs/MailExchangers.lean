import Mathlib.Data.List.Destutter
import Mathlib.Data.Prod.Lex
import Mathlib.Data.String.Basic
import SenderAudit.Proofs.Json.Words
import SenderAudit.Proofs.OctetOrder
import SenderAudit.Proofs.WrittenNumbers

/-!
The list of mail exchangers is in canonical form. It ascends strictly, so it holds each record
once and is told by the set of its records alone; and a record in it is read again from any text
that writes it.
-/
namespace SenderAudit

namespace Text

theorem numeral_toDigits (n : Nat) : Numeral (Nat.toDigits 10 n) n :=
  (numeral_iff _ n).mpr ⟨Json.isDigits_toDigits n, Json.digitsValue_toDigits n⟩

theorem isBlank_of_isDigit (c : Char) (digit : c.isDigit = true) : isBlank c = false := by
  obtain ⟨d, small, rfl⟩ := digitChar_of_isDigit c digit
  have table : ∀ d < 10, isBlank (Nat.digitChar d) = false := by decide
  exact table d small

theorem isUpper_toLower (c : Char) : c.toLower.isUpper = false := by
  by_cases small : c.toNat < 128
  · exact of_table (P := fun c => c.toLower.isUpper = false) (by decide) c small
  · rw [toLower_of_large c small]
    apply Bool.eq_false_iff.mpr
    intro upper
    have atMost : c.val ≤ 90 := (of_decide_eq_true upper : c.val ≥ 65 ∧ c.val ≤ 90).2
    exact small (Nat.lt_of_le_of_lt (UInt32.le_iff_toNat_le.mp atMost) (by decide))

end Text

namespace MailExchanger

/-! The order of records. -/

def key (mx : MailExchanger) : Lex (Nat × String) :=
  toLex (mx.preference, mx.host)

theorem key_injective : Function.Injective key := by
  rintro ⟨preference, host⟩ ⟨preference', host'⟩ same
  obtain ⟨rfl, rfl⟩ := Prod.mk.inj (toLex.injective same)
  rfl

/-- Preferences come first, then the octets of hosts. -/
def Precedes (a b : MailExchanger) : Prop :=
  a.preference < b.preference ∨
    a.preference = b.preference ∧ Utf8.encode a.host.toList < Utf8.encode b.host.toList

theorem precedes_iff (a b : MailExchanger) : Precedes a b ↔ a.key < b.key := by
  rw [Precedes, Utf8.encode_lt_iff, ← String.lt_iff_toList_lt, key, key,
    Prod.Lex.toLex_lt_toLex]

theorem before_iff (a b : MailExchanger) : before a b = true ↔ a.key < b.key := by
  rw [key, key, Prod.Lex.toLex_lt_toLex]
  simp [before]

instance : Std.Irrefl Precedes :=
  ⟨fun a less => lt_irrefl _ ((precedes_iff a a).mp less)⟩

instance : Std.Antisymm Precedes :=
  ⟨fun a b less more => absurd ((precedes_iff a b).mp less) ((precedes_iff b a).mp more).asymm⟩

theorem mem_insert (a b : MailExchanger) (records : List MailExchanger) :
    b ∈ insert a records ↔ b = a ∨ b ∈ records := by
  induction records with
  | nil => simp [insert]
  | cons first rest ih =>
      by_cases less : before a first = true
      · simp [insert, less]
      · by_cases same : a = first
        · subst same
          simp [insert, less]
        · simp only [insert, less, same, Bool.false_eq_true, ↓reduceIte, List.mem_cons, ih]
          exact or_left_comm

theorem insert_ascending (a : MailExchanger) (records : List MailExchanger)
    (ascending : records.Pairwise Precedes) : (insert a records).Pairwise Precedes := by
  induction records with
  | nil => exact List.pairwise_singleton _ a
  | cons first rest ih =>
      obtain ⟨least, later⟩ := List.pairwise_cons.mp ascending
      by_cases less : before a first = true
      · rw [insert, if_pos less]
        have below : a.key < first.key := (before_iff a first).mp less
        apply List.pairwise_cons.mpr ⟨?_, ascending⟩
        intro b member
        rcases List.mem_cons.mp member with rfl | inRest
        · exact (precedes_iff a b).mpr below
        · exact (precedes_iff a b).mpr (below.trans ((precedes_iff first b).mp (least b inRest)))
      · by_cases same : a = first
        · rwa [insert, if_neg less, if_pos same]
        · rw [insert, if_neg less, if_neg same]
          have above : first.key < a.key := by
            apply lt_of_le_of_ne (not_lt.mp (mt (before_iff a first).mpr less))
            exact fun equal => same (key_injective equal).symm
          apply List.pairwise_cons.mpr ⟨?_, ih later⟩
          intro b member
          rcases (mem_insert a b rest).mp member with rfl | inRest
          · exact (precedes_iff first b).mpr above
          · exact least b inRest

theorem mem_collect (answers : List String) (mx : MailExchanger) :
    mx ∈ collect answers ↔ ∃ answer ∈ answers, parse? answer = some mx := by
  have inserted : ∀ records : List MailExchanger,
      mx ∈ records.foldr insert [] ↔ mx ∈ records := by
    intro records
    induction records with
    | nil => rfl
    | cons first rest ih => rw [List.foldr_cons, mem_insert, ih, List.mem_cons]
  rw [collect, inserted, List.mem_filterMap]

theorem collect_ascending (answers : List String) : (collect answers).Pairwise Precedes := by
  rw [collect]
  induction answers.filterMap parse? with
  | nil => exact List.Pairwise.nil
  | cons first rest ih => exact insert_ascending first _ ih

theorem eq_collect (answers : List String) (records : List MailExchanger)
    (ascending : records.Pairwise Precedes)
    (members : ∀ mx, mx ∈ records ↔ ∃ answer ∈ answers, parse? answer = some mx) :
    records = collect answers :=
  ascending.eq_of_mem_iff (collect_ascending answers) fun mx =>
    (members mx).trans (mem_collect answers mx).symm

def noLater (a b : MailExchanger) : Bool :=
  !before b a

theorem noLater_iff (a b : MailExchanger) : noLater a b = true ↔ a.key ≤ b.key := by
  rw [noLater, Bool.not_eq_true', Bool.eq_false_iff, ne_eq, before_iff, not_lt]

/-- The records are sorted, and those that equal the one before them are dropped. -/
theorem collect_eq_sorted (answers : List String) :
    collect answers = ((answers.filterMap parse?).mergeSort noLater).destutter (· ≠ ·) := by
  have sorted : ((answers.filterMap parse?).mergeSort noLater).Pairwise
      fun a b => noLater a b = true := by
    apply List.pairwise_mergeSort
    · intro a b c first second
      rw [noLater_iff] at first second ⊢
      exact first.trans second
    · intro a b
      simpa [noLater_iff] using le_total a.key b.key
  have : Std.Antisymm fun a b => noLater a b = true :=
    ⟨fun a b less more => key_injective
      (((noLater_iff a b).mp less).antisymm ((noLater_iff b a).mp more))⟩
  rw [sorted.destutter_eq_dedup]
  symm
  apply eq_collect
  · have apart := List.pairwise_and_iff.mpr
      ⟨sorted.sublist (List.dedup_sublist _), List.nodup_dedup _⟩
    apply apart.imp
    rintro a b ⟨noMore, different⟩
    rw [precedes_iff]
    exact lt_of_le_of_ne ((noLater_iff a b).mp noMore) fun same => different (key_injective same)
  · intro mx
    rw [List.mem_dedup, (List.mergeSort_perm _ _).mem_iff, List.mem_filterMap]

/-! The form of records. -/

/-- The hosts of records are words in lower case without dots at their ends. -/
structure HasPlainHost (mx : MailExchanger) : Prop where
  nonempty : mx.host.toList ≠ []
  solid : ∀ c ∈ mx.host.toList, Text.isBlank c = false
  small : ∀ c ∈ mx.host.toList, c.isUpper = false
  closed : mx.host.toList.getLast? ≠ some '.'

/-- The texts that write a record: its preference in digits, and its host in any letter case and
with any dots after it. Blanks stand between the two and may stand around them. -/
inductive Writes (mx : MailExchanger) (text : String) : Prop
  | intro {before between host dots after : List Char}
    (spelled : text.toList = before ++ ((toString mx.preference).toList ++
      (between ++ ((host ++ dots) ++ after))))
    (start : ∀ c ∈ before, Text.isBlank c = true) (apart : between ≠ [])
    (middle : ∀ c ∈ between, Text.isBlank c = true) (caseless : Text.lower host = mx.host.toList)
    (final : ∀ c ∈ dots, c = '.') (end_ : ∀ c ∈ after, Text.isBlank c = true)

theorem hostName_word (word : List Char) (solid : ∀ c ∈ word, Text.isBlank c = false) :
    hostName word = Text.lower (Text.dropTail (· == '.') word) := by
  rw [hostName, Text.trim_eq_self word solid]

theorem parse?_plainHost (data : String) (mx : MailExchanger) (read : parse? data = some mx) :
    mx.HasPlainHost ∧ mx.preference ≤ 65535 := by
  obtain ⟨preference, host, split, _, small, nonempty, isHost⟩ := (parse?_eq_some data mx).mp read
  have solid := Text.solid_of_mem_words data.toList host (by simp [split])
  rw [hostName_word host solid] at nonempty isHost
  have spelled : mx.host.toList = Text.lower (Text.dropTail (· == '.') host) := by
    rw [isHost, String.toList_ofList]
  refine ⟨⟨spelled ▸ nonempty, ?_, ?_, ?_⟩, small⟩ <;> rw [spelled]
  · intro c member
    obtain ⟨letter, inHost, rfl⟩ := List.mem_map.mp member
    rw [Text.isBlank_caseless]
    exact solid letter (Text.mem_of_mem_dropTail _ host letter inHost)
  · intro c member
    obtain ⟨letter, _, rfl⟩ := List.mem_map.mp member
    exact Text.isUpper_toLower letter
  · intro final
    rw [Text.lower, List.getLast?_map, Option.map_eq_some_iff] at final
    obtain ⟨letter, last, lowered⟩ := final
    have noDot := Text.dropTail_last _ host letter last
    rw [(Text.toLower_eq_sign_iff '.' (by decide) letter).mp lowered] at noDot
    exact absurd noDot (by decide)

theorem hostName_spelled (mx : MailExchanger) (plain : mx.HasPlainHost) (host dots : List Char)
    (caseless : Text.lower host = mx.host.toList) (final : ∀ c ∈ dots, c = '.')
    (solid : ∀ c ∈ host ++ dots, Text.isBlank c = false) :
    hostName (host ++ dots) = mx.host.toList := by
  have closed : Text.dropTail (· == '.') host = host := by
    apply Text.dropTail_of_last
    intro c last
    apply beq_eq_false_iff_ne.mpr
    rintro rfl
    apply plain.closed
    rw [← caseless, Text.lower, List.getLast?_map, last]
    rfl
  rw [hostName_word _ solid,
    Text.dropTail_append _ host dots fun c member => beq_iff_eq.mpr (final c member), closed,
    caseless]

theorem parse?_of_writes (mx : MailExchanger) (plain : mx.HasPlainHost)
    (bounded : mx.preference ≤ 65535) (text : String) (writes : mx.Writes text) :
    parse? text = some mx := by
  cases writes with
  | @intro before between host dots after spelled start apart middle caseless final end_ =>
      have digits : (toString mx.preference).toList = Nat.toDigits 10 mx.preference := by
        change mx.preference.repr.toList = _
        rw [Nat.repr_eq_ofList_toDigits, String.toList_ofList]
      have first : ∀ c ∈ Nat.toDigits 10 mx.preference, Text.isBlank c = false :=
        fun c member => Text.isBlank_of_isDigit c (Json.toDigits_isDigit _ c member)
      have second : ∀ c ∈ host ++ dots, Text.isBlank c = false := by
        intro c member
        rcases List.mem_append.mp member with inHost | inDots
        · rw [← Text.isBlank_caseless]
          exact plain.solid _ (caseless ▸ List.mem_map_of_mem inHost)
        · rw [final c inDots]
          decide
      have nonempty : host ++ dots ≠ [] := by
        intro empty
        apply plain.nonempty
        rw [← caseless, (List.append_eq_nil_iff.mp empty).1]
        rfl
      have named := hostName_spelled mx plain host dots caseless final second
      apply (parse?_eq_some text mx).mpr
      refine ⟨Nat.toDigits 10 mx.preference, host ++ dots, ?_,
        .plain (Text.numeral_toDigits mx.preference), bounded, ?_, ?_⟩
      · rw [spelled, digits, Text.words_blanks before _ start,
          Text.words_append_blanks _ between _ Nat.toDigits_ne_nil first apart middle,
          Text.words_trailing _ after nonempty second end_]
      · rw [named]
        exact plain.nonempty
      · rw [named, String.ofList_toList]

/-- The exchangers are the records of the answers, sorted without repeats: they ascend strictly by
preference and then the octets of the host. The order of the answers, repeats among them and
answers that are no record do not count. Each exchanger has a plain host and is read from every
text that writes it. -/
theorem collect_canonical (answers : List String) :
    collect answers = ((answers.filterMap parse?).mergeSort noLater).destutter (· ≠ ·) ∧
    (collect answers).Pairwise Precedes ∧
    (∀ mx, mx ∈ collect answers ↔ ∃ answer ∈ answers, parse? answer = some mx) ∧
    (∀ others : List String, (∀ answer ∈ answers, answer ∈ others) →
      (∀ answer ∈ others, answer ∈ answers ∨ parse? answer = none) →
      collect others = collect answers) ∧
    ∀ mx ∈ collect answers, mx.HasPlainHost ∧ ∀ text, mx.Writes text → parse? text = some mx := by
  refine ⟨collect_eq_sorted answers, collect_ascending answers, mem_collect answers, ?_, ?_⟩
  · intro others all known
    apply eq_collect answers _ (collect_ascending others)
    intro mx
    rw [mem_collect]
    constructor
    · rintro ⟨answer, inOthers, read⟩
      rcases known answer inOthers with isKnown | unread
      · exact ⟨answer, isKnown, read⟩
      · rw [unread] at read
        cases read
    · rintro ⟨answer, inAnswers, read⟩
      exact ⟨answer, all answer inAnswers, read⟩
  · intro mx member
    obtain ⟨answer, _, read⟩ := (mem_collect answers mx).mp member
    obtain ⟨plain, bounded⟩ := parse?_plainHost answer mx read
    exact ⟨plain, parse?_of_writes mx plain bounded⟩

def exchangeAnswers : List String :=
  ["20 mx2.example.com.", "ten mx.example.com.", "10 MX1.example.com.", "5", "10 mx1.example.com"]

theorem exchangeAnswers_collected :
    (∀ answer ∈ exchangeAnswers, answer ∈ "mx3.example.com" :: exchangeAnswers.reverse) ∧
    collect ("mx3.example.com" :: exchangeAnswers.reverse) = collect exchangeAnswers ∧
    collect exchangeAnswers = [⟨10, "mx1.example.com"⟩, ⟨20, "mx2.example.com"⟩] ∧
    parse? "\t10  Mx1.Example.Com.. " = some ⟨10, "mx1.example.com"⟩ := by
  obtain ⟨_, _, _, stable, each⟩ := collect_canonical exchangeAnswers
  have all : ∀ answer ∈ exchangeAnswers,
      answer ∈ "mx3.example.com" :: exchangeAnswers.reverse := by
    intro answer member
    exact List.mem_cons_of_mem _ (List.mem_reverse.mpr member)
  have known : ∀ answer ∈ "mx3.example.com" :: exchangeAnswers.reverse,
      answer ∈ exchangeAnswers ∨ parse? answer = none := by
    intro answer member
    rcases List.mem_cons.mp member with rfl | inReverse
    · exact .inr (by decide +kernel)
    · exact .inl (List.mem_reverse.mp inReverse)
  have collected :
      collect exchangeAnswers = [⟨10, "mx1.example.com"⟩, ⟨20, "mx2.example.com"⟩] := by
    decide +kernel
  have writes : Writes ⟨10, "mx1.example.com"⟩ "\t10  Mx1.Example.Com.. " :=
    @Writes.intro _ _ ['\t'] [' ', ' '] "Mx1.Example.Com".toList ['.', '.'] [' ']
      (by decide +kernel) (by simp; decide) (by simp) (by simp; decide) (by decide +kernel)
      (by simp) (by simp; decide)
  have first := (each ⟨10, "mx1.example.com"⟩ (by rw [collected]; exact List.mem_cons_self)).2
  exact ⟨all, stable _ all known, collected, first _ writes⟩

end MailExchanger

end SenderAudit
