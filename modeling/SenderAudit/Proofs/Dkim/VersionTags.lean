import Mathlib.Data.List.Infix
import SenderAudit.Dkim.Key
import SenderAudit.Proofs.Text

/-!
Where the record of a key is found. An answer may mention the version several times; the record
begins at the first mention, and if no semicolon ends that one, the answer is passed over, even
if it holds a record further on.
-/
namespace SenderAudit.Dkim

def BeginsTag (place : List Char) : Prop :=
  ∃ tag rest, place = tag ++ rest ∧ Text.sameLetters tag version = true

/-- The version stands at the front, and behind blanks a semicolon ends it. -/
def BeginsRecord (place : List Char) : Prop :=
  ∃ tag gap rest, place = tag ++ (gap ++ ';' :: rest) ∧ Text.sameLetters tag version = true ∧
    ∀ c ∈ gap, Text.isBlank c = true

/-- The text from the first mention of the version on. -/
def FirstTag (answer place : List Char) : Prop :=
  place <:+ answer ∧ BeginsTag place ∧ ∀ other, other <:+ answer → BeginsTag other → other <:+ place

/-- Somewhere in the answer a record begins. -/
def HoldsRecord (answer : String) : Prop :=
  ∃ place, place <:+ answer.toList ∧ BeginsRecord place

/-- A record begins where the answer first mentions the version. -/
def OpensRecord (answer : String) : Prop :=
  ∃ place, FirstTag answer.toList place ∧ BeginsRecord place

theorem BeginsRecord.beginsTag {place : List Char} (begins : BeginsRecord place) :
    BeginsTag place := by
  obtain ⟨tag, gap, rest, split, same, _⟩ := begins
  exact ⟨tag, gap ++ ';' :: rest, split, same⟩

theorem OpensRecord.holdsRecord {answer : String} (opens : OpensRecord answer) :
    HoldsRecord answer := by
  obtain ⟨place, first, begins⟩ := opens
  exact ⟨place, first.1, begins⟩

theorem length_of_sameLetters (s t : List Char) (same : Text.sameLetters s t = true) :
    s.length = t.length := by
  have lowered := congrArg List.length (beq_iff_eq.mp same)
  simpa [Text.lower] using lowered

theorem beginsTag_iff (place : List Char) :
    BeginsTag place ↔ Text.sameLetters (place.take version.length) version = true := by
  constructor
  · rintro ⟨tag, rest, rfl, same⟩
    rwa [List.take_left' (length_of_sameLetters tag version same)]
  · intro same
    exact ⟨place.take version.length, place.drop version.length,
      (List.take_append_drop _ _).symm, same⟩

theorem not_beginsTag_nil : ¬ BeginsTag [] := by
  rw [beginsTag_iff]
  decide

theorem trimStart_semicolon (s : List Char) :
    (Text.trimStart s).head? = some ';' ↔
      ∃ gap rest, s = gap ++ ';' :: rest ∧ ∀ c ∈ gap, Text.isBlank c = true := by
  constructor
  · intro next
    obtain ⟨rest, isRest⟩ := List.head?_eq_some_iff.mp next
    refine ⟨s.takeWhile Text.isBlank, rest, ?_, fun c member => List.mem_takeWhile_imp member⟩
    rw [← isRest, Text.trimStart, List.takeWhile_append_dropWhile]
  · rintro ⟨gap, rest, rfl, blank⟩
    rw [Text.trimStart, List.dropWhile_append_of_pos blank,
      List.dropWhile_cons_of_neg (by decide)]
    rfl

theorem beginsRecord_iff (place : List Char) (tagged : BeginsTag place) :
    BeginsRecord place ↔
      (Text.trimStart (place.drop version.length)).head? = some ';' := by
  rw [trimStart_semicolon]
  constructor
  · rintro ⟨tag, gap, rest, rfl, same, blank⟩
    exact ⟨gap, rest, List.drop_left' (length_of_sameLetters tag version same), blank⟩
  · rintro ⟨gap, rest, isRest, blank⟩
    refine ⟨place.take version.length, gap, rest, ?_, (beginsTag_iff place).mp tagged, blank⟩
    rw [← isRest, List.take_append_drop]

-- A tag further back is only reached once the front has none.
theorem fromFirst?_version (answer place : List Char) :
    fromFirst? version answer = some place ↔ FirstTag answer place := by
  induction answer with
  | nil =>
      constructor
      · intro found
        cases found
      · rintro ⟨suffix, tagged, _⟩
        rw [List.suffix_nil.mp suffix] at tagged
        exact absurd tagged not_beginsTag_nil
  | cons c rest ih =>
      rw [fromFirst?]
      by_cases tagged : BeginsTag (c :: rest)
      · rw [if_pos ((beginsTag_iff _).mp tagged)]
        constructor
        · rintro ⟨⟩
          exact ⟨List.suffix_rfl, tagged, fun other suffix _ => suffix⟩
        · rintro ⟨suffix, _, furthest⟩
          exact congrArg some (furthest _ List.suffix_rfl tagged |>.eq_of_length_le
            suffix.length_le)
      · rw [if_neg (mt (beginsTag_iff _).mpr tagged), ih]
        have inRest : ∀ other, other <:+ c :: rest → BeginsTag other → other <:+ rest := by
          intro other suffix otherTagged
          rcases List.suffix_cons_iff.mp suffix with whole | later
          · exact absurd (whole ▸ otherTagged) tagged
          · exact later
        constructor
        · rintro ⟨suffix, placeTagged, furthest⟩
          exact ⟨suffix.trans (List.suffix_cons c rest), placeTagged, fun other otherSuffix
            otherTagged => furthest other (inRest other otherSuffix otherTagged) otherTagged⟩
        · rintro ⟨suffix, placeTagged, furthest⟩
          exact ⟨inRest place suffix placeTagged, placeTagged, fun other otherSuffix
            otherTagged => furthest other (otherSuffix.trans (List.suffix_cons c rest))
              otherTagged⟩

theorem recordIn?_eq_some (answer record : List Char) :
    recordIn? answer = some record ↔
      ∃ place, FirstTag answer place ∧ BeginsRecord place ∧ record = Text.trim place := by
  unfold recordIn?
  cases found : fromFirst? version answer with
  | none =>
      constructor
      · intro made
        cases made
      · rintro ⟨place, first, _⟩
        rw [(fromFirst?_version answer place).mpr first] at found
        cases found
  | some place =>
      have first := (fromFirst?_version answer place).mp found
      have only : ∀ other, FirstTag answer other → other = place := by
        intro other isFirst
        rw [(fromFirst?_version answer other).mpr isFirst] at found
        exact Option.some.inj found
      have closed := beginsRecord_iff place first.2.1
      dsimp only
      constructor
      · intro made
        split at made
        · rename_i semicolon
          cases made
          exact ⟨place, first, closed.mpr semicolon, rfl⟩
        · cases made
      · rintro ⟨other, isFirst, begins, rfl⟩
        rw [only other isFirst] at begins ⊢
        rw [if_pos (closed.mp begins)]

theorem recordIn?_eq_none (answer : String) :
    recordIn? answer.toList = none ↔ ¬ OpensRecord answer := by
  rw [Option.eq_none_iff_forall_ne_some]
  constructor
  · rintro none ⟨place, first, begins⟩
    exact none _ ((recordIn?_eq_some answer.toList _).mpr ⟨place, first, begins, rfl⟩)
  · intro closed record made
    obtain ⟨place, first, begins, _⟩ := (recordIn?_eq_some answer.toList record).mp made
    exact closed ⟨place, first, begins⟩

theorem findRecord?_eq_some (answers : List String) (record : String) :
    findRecord? answers = some record ↔ ∃ earlier answer later place,
      answers = earlier ++ answer :: later ∧ (∀ other ∈ earlier, ¬ OpensRecord other) ∧
        FirstTag answer.toList place ∧ BeginsRecord place ∧
          record = String.ofList (Text.trim place) := by
  simp only [findRecord?, Option.map_eq_some_iff, List.findSome?_eq_some_iff,
    recordIn?_eq_some, recordIn?_eq_none]
  constructor
  · rintro ⟨_, ⟨earlier, answer, later, split, ⟨place, first, begins, rfl⟩, passed⟩, rfl⟩
    exact ⟨earlier, answer, later, place, split, passed, first, begins, rfl⟩
  · rintro ⟨earlier, answer, later, place, split, passed, first, begins, rfl⟩
    exact ⟨_, ⟨earlier, answer, later, split, ⟨place, first, begins, rfl⟩, passed⟩, rfl⟩

/-- The first answer that holds a record opens it where it first mentions the version. -/
def RecordsOpen (answers : List String) : Prop :=
  ∀ earlier answer later, answers = earlier ++ answer :: later →
    (∀ other ∈ earlier, ¬ HoldsRecord other) → HoldsRecord answer → OpensRecord answer

theorem exists_first_holder (answers : List String)
    (holds : ∃ answer ∈ answers, HoldsRecord answer) :
    ∃ earlier answer later, answers = earlier ++ answer :: later ∧
      (∀ other ∈ earlier, ¬ HoldsRecord other) ∧ HoldsRecord answer := by
  classical
  obtain ⟨answer, isAnswer, holder⟩ := holds
  have found : (answers.find? (HoldsRecord ·)).isSome :=
    List.find?_isSome.mpr ⟨answer, isAnswer, decide_eq_true holder⟩
  obtain ⟨first, isFirst⟩ := Option.isSome_iff_exists.mp found
  obtain ⟨firstHolds, earlier, later, split, before⟩ := List.find?_eq_some_iff_append.mp isFirst
  refine ⟨earlier, first, later, split, fun other isEarlier otherHolds => ?_,
    of_decide_eq_true firstHolds⟩
  simpa [otherHolds] using before other isEarlier

/-- The record found is that of the first answer in which a record begins at the first mention
of the version, and runs from there to the end. Where the first answer that holds a record
mentions no version before it, the search finds a record exactly if some answer holds one, and
then the one in the first of them. -/
theorem findRecord_at_first_mention (answers : List String) :
    (∀ record, findRecord? answers = some record ↔ ∃ earlier answer later place,
      answers = earlier ++ answer :: later ∧ (∀ other ∈ earlier, ¬ OpensRecord other) ∧
        FirstTag answer.toList place ∧ BeginsRecord place ∧
          record = String.ofList (Text.trim place)) ∧
    (RecordsOpen answers →
      ((∃ record, findRecord? answers = some record) ↔ ∃ answer ∈ answers, HoldsRecord answer) ∧
      ∀ earlier answer later, answers = earlier ++ answer :: later →
        (∀ other ∈ earlier, ¬ HoldsRecord other) → HoldsRecord answer →
          ∃ place, place <:+ answer.toList ∧ BeginsRecord place ∧
            findRecord? answers = some (String.ofList (Text.trim place))) := by
  refine ⟨findRecord?_eq_some answers, fun recordsOpen => ?_⟩
  have inFirst : ∀ earlier answer later, answers = earlier ++ answer :: later →
      (∀ other ∈ earlier, ¬ HoldsRecord other) → HoldsRecord answer →
        ∃ place, place <:+ answer.toList ∧ BeginsRecord place ∧
          findRecord? answers = some (String.ofList (Text.trim place)) := by
    intro earlier answer later split none holds
    obtain ⟨place, first, begins⟩ := recordsOpen earlier answer later split none holds
    refine ⟨place, first.1, begins, (findRecord?_eq_some answers _).mpr ?_⟩
    exact ⟨earlier, answer, later, place, split,
      fun other isEarlier opens => none other isEarlier opens.holdsRecord, first, begins, rfl⟩
  refine ⟨⟨?_, ?_⟩, inFirst⟩
  · rintro ⟨record, found⟩
    obtain ⟨earlier, answer, later, place, split, _, first, begins, _⟩ :=
      (findRecord?_eq_some answers record).mp found
    refine ⟨answer, ?_, place, first.1, begins⟩
    rw [split]
    exact List.mem_append_right _ List.mem_cons_self
  · intro holds
    obtain ⟨earlier, answer, later, split, none, holder⟩ := exists_first_holder answers holds
    obtain ⟨place, _, _, found⟩ := inFirst earlier answer later split none holder
    exact ⟨_, found⟩

def junkAnswers : List String :=
  ["unrelated", "junk V=dkim1 ; k=rsa; p=abc"]

theorem junkAnswers_record_found :
    RecordsOpen junkAnswers ∧
    (∃ answer ∈ junkAnswers, HoldsRecord answer) ∧
    ∃ place, place <:+ "junk V=dkim1 ; k=rsa; p=abc".toList ∧ BeginsRecord place ∧
      findRecord? junkAnswers = some (String.ofList (Text.trim place)) := by
  have found : findRecord? junkAnswers = some "V=dkim1 ; k=rsa; p=abc" := by decide
  have tagless : ¬ HoldsRecord "unrelated" := by
    rintro ⟨place, suffix, begins⟩
    have none : ∀ other ∈ "unrelated".toList.tails,
        Text.sameLetters (other.take version.length) version = false := by decide
    have tagged := (beginsTag_iff place).mp begins.beginsTag
    rw [none place ((List.mem_tails _ _).mpr suffix)] at tagged
    cases tagged
  have opens : OpensRecord "junk V=dkim1 ; k=rsa; p=abc" := by
    by_contra closed
    rw [← recordIn?_eq_none] at closed
    revert closed
    decide
  have recordsOpen : RecordsOpen junkAnswers := by
    intro earlier answer later split _ holds
    have member : answer ∈ junkAnswers := by
      rw [split]
      exact List.mem_append_right _ List.mem_cons_self
    rcases List.mem_cons.mp member with rfl | last
    · exact absurd holds tagless
    · rw [List.mem_singleton.mp last]
      exact opens
  obtain ⟨search, inFirst⟩ := (findRecord_at_first_mention junkAnswers).2 recordsOpen
  refine ⟨recordsOpen, search.mp ⟨_, found⟩, ?_⟩
  apply inFirst ["unrelated"] _ [] rfl
  · intro other isEarlier
    rw [List.mem_singleton.mp isEarlier]
    exact tagless
  · exact opens.holdsRecord

def wordyAnswer : String := "keys are v=DKIM1 here: v=DKIM1; k=ed25519; p=abc"

-- The record is there, but the first mention has no semicolon behind it.
theorem wordyAnswer_passed_over :
    HoldsRecord wordyAnswer ∧ findRecord? [wordyAnswer] = none ∧
    ¬ ((∃ record, findRecord? [wordyAnswer] = some record) ↔
      ∃ answer ∈ [wordyAnswer], HoldsRecord answer) := by
  have none : findRecord? [wordyAnswer] = none := by decide
  have holds : HoldsRecord wordyAnswer := by
    refine ⟨"v=DKIM1; k=ed25519; p=abc".toList, ?_, "v=DKIM1".toList, [],
      " k=ed25519; p=abc".toList, by decide, by decide, by simp⟩
    exact List.isSuffixOf_iff_suffix.mp (by decide)
  refine ⟨holds, none, fun search => ?_⟩
  obtain ⟨record, found⟩ := search.mpr ⟨wordyAnswer, List.mem_singleton_self _, holds⟩
  rw [none] at found
  cases found

end SenderAudit.Dkim
