import Mathlib.Logic.Relation
import SenderAudit.Proofs.Dmarc.RecordCounts
import SenderAudit.Proofs.TagValues

/-!
What the order and the spelling of tags matter. A check reads the last values of seven keys and
nothing else of a record, so records that assign the same to these keys are judged alike, with
the same warnings in the same order.
-/
namespace SenderAudit.Dmarc

open Text (partKey partValue lastOf)

def readKeys : List String := ["p", "sp", "pct", "rua", "ruf", "adkim", "aspf"]

/-- Both records assign the same values to the keys that are read, and none to the same keys. -/
def SameTags (first second : List Char) : Prop :=
  ∀ key ∈ readKeys, ∀ value,
    Text.Assigns first key.toList value ↔ Text.Assigns second key.toList value

/-- A change to the parts of a record after which its tags say the same. -/
inductive Change : List (List Char) → List (List Char) → Prop
  /-- Tags with different keys change places. -/
  | permuted (before after : List (List Char)) {parts others : List (List Char)}
      (perm : parts.Perm others) (distinct : (parts.map partKey).Nodup) :
      Change (before ++ parts ++ after) (before ++ others ++ after)
  /-- A tag comes in that a later one overrides. -/
  | overridden (before between after : List (List Char)) {part last : List Char}
      (sameKey : partKey part = partKey last) :
      Change (before ++ (between ++ last :: after))
        (before ++ part :: (between ++ last :: after))
  /-- A tag comes in that is not read, or an empty part. -/
  | unread (before after : List (List Char)) {part : List Char}
      (unknown : ∀ key ∈ readKeys, partKey part ≠ key.toList) :
      Change (before ++ after) (before ++ part :: after)
  /-- A tag is spelled with other blanks around its key and value, or its key in other case. -/
  | respelled (before after : List (List Char)) {part other : List Char}
      (sameKey : partKey part = partKey other) (sameValue : partValue part = partValue other) :
      Change (before ++ part :: after) (before ++ other :: after)

theorem lastOf_of_distinct (key value : List Char) (parts : List (List Char))
    (distinct : (parts.map partKey).Nodup) :
    lastOf key parts = some value ↔ ∃ part ∈ parts, partKey part = key ∧ partValue part = value := by
  rw [Text.lastOf_eq_some]
  constructor
  · rintro ⟨earlier, part, later, rfl, isKey, isValue, _⟩
    exact ⟨part, by simp, isKey, isValue⟩
  · rintro ⟨part, member, isKey, isValue⟩
    obtain ⟨earlier, later, rfl⟩ := List.append_of_mem member
    refine ⟨earlier, part, later, rfl, isKey, isValue, fun other isLater same => ?_⟩
    rw [List.map_append, List.map_cons] at distinct
    have apart := (List.nodup_cons.mp (List.nodup_append.mp distinct).2.1).1
    exact apart (isKey ▸ same ▸ List.mem_map_of_mem isLater)

theorem Change.lastOf_eq {parts others : List (List Char)} (change : Change parts others)
    (key : String) (isRead : key ∈ readKeys) :
    lastOf key.toList parts = lastOf key.toList others := by
  cases change with
  | @permuted before after parts others perm distinct =>
      have distinct' := (perm.map partKey).nodup_iff.mp distinct
      have same : lastOf key.toList parts = lastOf key.toList others := by
        apply Option.ext
        intro value
        simp only [lastOf_of_distinct _ _ _ distinct, lastOf_of_distinct _ _ _ distinct',
          perm.mem_iff]
      simp only [Text.lastOf_append, same]
  | @overridden before between after part last sameKey =>
      rw [Text.lastOf_append_cons, Text.lastOf_append, Text.lastOf_append_cons, sameKey]
      by_cases isKey : partKey last = key.toList
      · cases lastOf key.toList after <;> simp [isKey]
      · simp [isKey]
  | @unread before after part unknown =>
      rw [Text.lastOf_append_cons, Text.lastOf_append, if_neg (unknown key isRead),
        Option.none_or]
  | @respelled before after part other sameKey sameValue =>
      rw [Text.lastOf_append_cons, Text.lastOf_append_cons, sameKey, sameValue]

/-- Records whose parts are brought from one to the other by changes. -/
def Retagged (first second : List Char) : Prop :=
  Relation.EqvGen Change (Text.fields ';' first) (Text.fields ';' second)

theorem Retagged.sameTags {first second : List Char} (retagged : Retagged first second) :
    SameTags first second := by
  intro key isRead
  apply (Text.lastOf_eq_iff key.toList first second).mp
  unfold Retagged at retagged
  generalize Text.fields ';' first = parts at retagged ⊢
  generalize Text.fields ';' second = others at retagged ⊢
  induction retagged with
  | rel parts others change => exact change.lastOf_eq key isRead
  | refl parts => rfl
  | symm parts others _ ih => exact ih.symm
  | trans parts others last _ _ ih ih' => exact ih.trans ih'

theorem readTags_alike (o : Outcome) (record : Option String) (ts others : List Text.Tag)
    (same : ∀ key ∈ readKeys, Text.lastValue? key ts = Text.lastValue? key others) :
    readPolicy (readOptionalTags { o with record } others) (Text.lastValue? "p" others) =
      { readPolicy (readOptionalTags o ts) (Text.lastValue? "p" ts) with record } := by
  simp only [readKeys, List.forall_mem_cons] at same
  obtain ⟨p, sp, pct, rua, ruf, adkim, aspf, _⟩ := same
  simp only [readOptionalTags, AddressTag.key, AlignmentTag.key, p, sp, pct, rua, ruf, adkim, aspf]
  cases Text.lastValue? "p" others with
  | none => rfl
  | some value =>
      simp only [readPolicy]
      cases Policy.ofWord? value <;> rfl

def PublishesOne (resolver : Resolver) (domain : String) (text : List Char) : Prop :=
  ∀ name, policyName domain = .ok name →
    ∃ answers, (resolver name).texts = .ok answers ∧ candidates answers = [text]

/-- Two zones that publish one record each have the same outcome but for the text of the record,
if both records assign the same to the keys that are read, and so if one is made from the other
by moving tags with different keys, adding tags that are overridden, not read or empty, and
spelling keys and values with other blanks and keys in other case. -/
theorem check_of_same_tags (zone other : Resolver) (domain : String) (first second : List Char)
    (publishes : PublishesOne zone domain first) (publishes' : PublishesOne other domain second)
    (same : SameTags first second ∨ Retagged first second) :
    ∃ record, check other domain = ({ (check zone domain).1 with record },
      (check zone domain).2) := by
  have sameTags : SameTags first second := same.elim id Retagged.sameTags
  have values : ∀ key ∈ readKeys, Text.lastValue? key (Text.tags true first) =
      Text.lastValue? key (Text.tags true second) := by
    intro key isRead
    have solid : key.toList ≠ [] := by
      revert key
      decide
    rw [Text.lastValue?_tags key solid, Text.lastValue?_tags key solid, Text.lastOf_eq_iff]
    exact sameTags key isRead
  cases named : policyName domain with
  | error failure =>
      refine ⟨none, ?_⟩
      simp only [check, named, Outcome.fail]
  | ok name =>
      obtain ⟨answers, answered, found⟩ := publishes name named
      obtain ⟨answers', answered', found'⟩ := publishes' name named
      refine ⟨some (String.ofList second), ?_⟩
      rw [check_of_records named answered found, check_of_records named answered' found', found,
        found', ← readTags_alike _ _ _ _ values]
      rfl

def tidyText : String := "v=DMARC1; p=reject; pct=50; adkim=x"

def untidyText : String := "v=DMARC1; p=none;; adkim=x; PCT = 50 ; p=reject"

theorem untidyText_retagged : Retagged tidyText.toList untidyText.toList := by
  have tidy : Text.fields ';' tidyText.toList = ["v=DMARC1".toList, " p=reject".toList,
      " pct=50".toList, " adkim=x".toList] := by decide +kernel
  have untidy : Text.fields ';' untidyText.toList = ["v=DMARC1".toList, " p=none".toList, [],
      " adkim=x".toList, " PCT = 50 ".toList, " p=reject".toList] := by decide +kernel
  have reversed : [" p=reject".toList, " pct=50".toList, " adkim=x".toList].Perm
      [" adkim=x".toList, " pct=50".toList, " p=reject".toList] := (List.reverse_perm _).symm
  have sameKey : partKey " pct=50".toList = partKey " PCT = 50 ".toList := by decide +kernel
  have moved : Change ["v=DMARC1".toList, " p=reject".toList, " pct=50".toList, " adkim=x".toList]
      ["v=DMARC1".toList, " adkim=x".toList, " pct=50".toList, " p=reject".toList] :=
    .permuted ["v=DMARC1".toList] [] reversed (by decide +kernel)
  have spelled : Change _
      ["v=DMARC1".toList, " adkim=x".toList, " PCT = 50 ".toList, " p=reject".toList] :=
    .respelled ["v=DMARC1".toList, " adkim=x".toList] [" p=reject".toList] sameKey
      (by decide +kernel)
  have overridden : Change _ ["v=DMARC1".toList, " p=none".toList, " adkim=x".toList,
      " PCT = 50 ".toList, " p=reject".toList] :=
    .overridden ["v=DMARC1".toList] [" adkim=x".toList, " PCT = 50 ".toList] []
      (by decide +kernel)
  have emptied : Change _ ["v=DMARC1".toList, " p=none".toList, [], " adkim=x".toList,
      " PCT = 50 ".toList, " p=reject".toList] :=
    .unread ["v=DMARC1".toList, " p=none".toList] _ (by decide +kernel)
  rw [Retagged, tidy, untidy]
  exact .trans _ _ _ (.rel _ _ moved) (.trans _ _ _ (.rel _ _ spelled)
    (.trans _ _ _ (.rel _ _ overridden) (.rel _ _ emptied)))

theorem untidyText_same_tags :
    PublishesOne (answeringZone [tidyText]) "a.example" tidyText.toList ∧
    PublishesOne (answeringZone ["v=spf1", untidyText]) "a.example" untidyText.toList ∧
    Retagged tidyText.toList untidyText.toList ∧
    (∃ record, check (answeringZone ["v=spf1", untidyText]) "a.example" =
      ({ (check (answeringZone [tidyText]) "a.example").1 with record },
        (check (answeringZone [tidyText]) "a.example").2)) ∧
    (check (answeringZone [tidyText]) "a.example").1.policy = some .reject ∧
    (check (answeringZone [tidyText]) "a.example").1.warnings =
      [.partialCoverage 50, .badAlignment .adkim "x"] := by
  have publishes : PublishesOne (answeringZone [tidyText]) "a.example" tidyText.toList :=
    fun name _ => ⟨_, rfl, by decide +kernel⟩
  have publishes' : PublishesOne (answeringZone ["v=spf1", untidyText]) "a.example"
      untidyText.toList :=
    fun name _ => ⟨_, rfl, by decide +kernel⟩
  exact ⟨publishes, publishes', untidyText_retagged,
    check_of_same_tags _ _ "a.example" _ _ publishes publishes' (.inr untidyText_retagged),
    by decide +kernel, by decide +kernel⟩

end SenderAudit.Dmarc
