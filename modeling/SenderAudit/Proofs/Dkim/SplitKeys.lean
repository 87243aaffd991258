import SenderAudit.Dkim.Probe
import SenderAudit.Lookup.Txt
import SenderAudit.Proofs.Dkim.VersionTags
import SenderAudit.Proofs.PresentationForm
import SenderAudit.Proofs.Tags

/-!
Long keys. A key that does not fit into one character-string is cut, and reading puts a space at
every cut. Blanks do not count in a key, so a record reads as if it had never been cut.
-/
namespace SenderAudit.Txt

theorem reconstruct_whole (texts : List (List Char)) (data : String) (nonempty : texts ≠ [])
    (presents : Presents texts data.toList) (solid : ∀ text ∈ texts, text ≠ [])
    (fits : ∀ text ∈ texts, text.length ≤ maxSegmentLength) :
    reconstruct data = String.ofList ([' '].intercalate texts) := by
  have trimmed : Presents texts (Text.trim data.toList) :=
    presents_trimEnd _ _ (presents_trimStart _ _ presents)
  have quoted : (Text.trim data.toList).contains '"' = true :=
    List.contains_iff_mem.mpr (quote_mem _ _ trimmed nonempty)
  have whole : (texts.map Utf8.encode).map segmentText = texts := by
    rw [List.map_map]
    refine (List.map_congr_left fun text member => ?_).trans (List.map_id' texts)
    rw [Function.comp, segmentText_encode]
    exact List.take_of_length_le (fits text member)
  have kept : texts.filter (!·.isEmpty) = texts := by
    apply List.filter_eq_self.mpr
    intro text member
    simpa using solid text member
  rw [reconstruct]
  simp only [quoted, ↓reduceIte, segments_presented _ _ trimmed, whole, kept]
  rw [← String.toList_inj, Text.joined, String.toList_intercalate, List.map_map]
  simp [Function.comp_def]

theorem writes_plain (text : List Char) (noQuote : '"' ∉ text) (noBackslash : '\\' ∉ text) :
    Writes text text := by
  induction text with
  | nil => exact .nil
  | cons c rest ih =>
      rw [List.mem_cons, not_or] at noQuote noBackslash
      exact .cons (.plain (Ne.symm noQuote.1) (Ne.symm noBackslash.1))
        (ih noQuote.2 noBackslash.2)

end SenderAudit.Txt

namespace SenderAudit.Dkim

open Text (solids)

/-- Where the value of a `p` tag stands in a record: what precedes the tag, less the semicolon
before it, its key as it is spelled, and what follows the value. -/
structure KeyPlace where
  front : List Char
  name : List Char
  after : List Char
  opens : BeginsRecord (front ++ [';'])
  isKey : Text.lower (Text.trim name) = ['p']
  onePart : ';' ∉ name ∧ '=' ∉ name
  ends : after = [] ∨ ∃ rest, after = ';' :: rest

namespace KeyPlace

def before (k : KeyPlace) : List Char :=
  k.front ++ ';' :: (k.name ++ ['='])

def record (k : KeyPlace) (value : List Char) : List Char :=
  k.before ++ (value ++ k.after)

/-- The strings of a record whose value comes in chunks: what precedes the value stands before
the first one, and what follows it after the last one. -/
def strings (before after : List Char) : (chunks : List (List Char)) → List (List Char)
  | [] => [before ++ after]
  | [chunk] => [before ++ (chunk ++ after)]
  | chunk :: next :: rest => (before ++ chunk) :: strings [] after (next :: rest)

theorem strings_ne_nil (before after : List Char) (chunks : List (List Char)) :
    strings before after chunks ≠ [] := by
  match chunks with
  | [] | [_] | _ :: _ :: _ => exact List.cons_ne_nil _ _

theorem strings_solid (before after : List Char) (chunks : List (List Char))
    (solid : ∀ chunk ∈ chunks, chunk ≠ []) (some : before ≠ [] ∨ chunks ≠ []) :
    ∀ text ∈ strings before after chunks, text ≠ [] := by
  induction chunks generalizing before with
  | nil =>
      rintro text member rfl
      rcases some with nonempty | nonempty
      · exact nonempty (List.append_eq_nil_iff.mp (List.mem_singleton.mp member).symm).1
      · exact nonempty rfl
  | cons chunk rest ih =>
      obtain ⟨first, others⟩ := List.forall_mem_cons.mp solid
      cases rest with
      | nil =>
          rintro text member rfl
          simp [strings, first] at member
      | cons next more =>
          rw [strings]
          refine List.forall_mem_cons.mpr ⟨by simp [first], ?_⟩
          exact ih [] others (Or.inr (List.cons_ne_nil _ _))

theorem spaced_strings (before after : List Char) (chunks : List (List Char)) :
    [' '].intercalate (strings before after chunks) =
      before ++ ([' '].intercalate chunks ++ after) := by
  induction chunks generalizing before with
  | nil => simp [strings]
  | cons chunk rest ih =>
      cases rest with
      | nil => simp [strings]
      | cons next more =>
          rw [strings, List.intercalate_cons_of_ne_nil (strings_ne_nil [] after _), ih]
          simp [List.intercalate_cons_cons]

def later (k : KeyPlace) : List Text.Tag :=
  match k.after with
  | [] => []
  | _ :: rest => Text.tags false rest

theorem tags_record (k : KeyPlace) (value : List Char) (onePart : ';' ∉ value) :
    ∃ shown, Text.tags false (k.record value) =
      Text.tags false k.front ++ ⟨['p'], shown⟩ :: k.later ∧ solids shown = solids value := by
  have whole : ';' ∉ k.name ++ '=' :: value := by
    simp [k.onePart.1, onePart]
  obtain ⟨shown, isTag, same⟩ := Text.tags_part k.name value whole k.onePart.2
  have split : k.record value = k.front ++ ';' :: (k.name ++ '=' :: value ++ k.after) := by
    simp [record, before]
  refine ⟨shown, ?_, same⟩
  rw [split, Text.tags_append, later]
  rcases k.ends with last | ⟨rest, more⟩
  · rw [last, List.append_nil, isTag, k.isKey]
  · rw [more, Text.tags_append, isTag, k.isKey]
    rfl

/-- What a record says depends on the value's characters that are not blank. -/
theorem read_record (k : KeyPlace) (value : List Char) (onePart : ';' ∉ value) :
    KeyTags.read (k.record value) =
      { keyType := ((Text.lastValue? "k" k.later).or
          (Text.lastValue? "k" (Text.tags false k.front))).map fun s => String.ofList (Text.lower s)
        publicKey := ((Text.lastValue? "p" k.later).map solids).getD (solids value)
        testing := ((Text.lastValue? "t" k.later).or
          (Text.lastValue? "t" (Text.tags false k.front))).any isTesting } := by
  obtain ⟨shown, split, same⟩ := k.tags_record value onePart
  have found (key : String) := Text.lastValue?_append_cons key (Text.tags false k.front) k.later
    ⟨['p'], shown⟩
  have ofType : ¬ ['p'] = "k".toList := by decide
  have ofKey : ['p'] = "p".toList := by decide
  have ofFlags : ¬ ['p'] = "t".toList := by decide
  rw [KeyTags.read, split, found, found, found, if_neg ofType, if_pos ofKey, if_neg ofFlags,
    ← same]
  cases Text.lastValue? "p" k.later <;> rfl

theorem begins (k : KeyPlace) (value : List Char) : BeginsRecord (k.record value) := by
  obtain ⟨tag, gap, rest, split, same, blank⟩ := k.opens
  refine ⟨tag, gap, rest ++ (k.name ++ '=' :: (value ++ k.after)), ?_, same, blank⟩
  calc k.record value
      = (k.front ++ [';']) ++ (k.name ++ '=' :: (value ++ k.after)) := by simp [record, before]
    _ = tag ++ (gap ++ ';' :: rest) ++ (k.name ++ '=' :: (value ++ k.after)) := by rw [split]
    _ = _ := by simp

def trimmed (k : KeyPlace) : KeyPlace :=
  { k with
    after := Text.trimEnd k.after
    ends := by
      rcases k.ends with last | ⟨rest, more⟩
      · exact Or.inl (by rw [last]; rfl)
      · exact Or.inr ⟨Text.trimEnd rest, by
          rw [more]; exact Text.dropTail_append_cons Text.isBlank [] rest ';' (by decide)⟩ }

theorem trimStart_of_beginsTag (s : List Char) (tagged : BeginsTag s) : Text.trimStart s = s := by
  obtain ⟨tag, rest, rfl, same⟩ := tagged
  cases tag with
  | nil => exact absurd same (by decide)
  | cons c others =>
      have letter : c.toLower = 'v' := (List.cons.inj (beq_iff_eq.mp same)).1
      have solid : Text.isBlank c = false := by
        by_cases small : c.toNat < 128
        · exact Text.of_table (P := fun c => c.toLower = 'v' → Text.isBlank c = false)
            (by decide) c small letter
        · rw [Text.toLower_of_large c small] at letter
          rw [letter]
          decide
      rw [List.cons_append, Text.trimStart, List.dropWhile_cons_of_neg (by simp [solid])]

/-- Trimming a record takes blanks from its end, those of the value if nothing follows it. -/
theorem trim_record (k : KeyPlace) (value : List Char) (onePart : ';' ∉ value) :
    ∃ rest, Text.trim (k.record value) = k.trimmed.record rest ∧ ';' ∉ rest ∧
      solids rest = solids value := by
  have start := trimStart_of_beginsTag _ (k.begins value).beginsTag
  have split (tail : List Char) : k.before ++ tail = (k.front ++ ';' :: k.name) ++ '=' :: tail := by
    simp [before]
  have ending : Text.trim (k.record value) = k.before ++ Text.trimEnd (value ++ k.after) := by
    rw [Text.trim, start, record, split, Text.trimEnd,
      Text.dropTail_append_cons _ _ _ '=' (by decide), ← split]
    rfl
  rw [ending]
  rcases k.ends with last | ⟨more, isMore⟩
  · refine ⟨Text.trimEnd value, ?_, mt (Text.mem_of_mem_dropTail _ _ _) onePart,
      Text.solids_trimEnd value⟩
    simp [record, before, trimmed, last, Text.trimEnd, Text.dropTail]
  · refine ⟨value, ?_, onePart, rfl⟩
    have kept : Text.trimEnd (value ++ ';' :: more) = value ++ Text.trimEnd (';' :: more) := by
      rw [Text.trimEnd, Text.dropTail_append_cons _ _ _ ';' (by decide)]
      exact congrArg (value ++ ·)
        (Text.dropTail_append_cons Text.isBlank [] more ';' (by decide)).symm
    change k.before ++ Text.trimEnd (value ++ k.after) = k.before ++ (value ++ Text.trimEnd k.after)
    rw [isMore, kept]

theorem read_trim_record (k : KeyPlace) (value other : List Char) (onePart : ';' ∉ value)
    (onePart' : ';' ∉ other) (same : solids value = solids other) :
    KeyTags.read (Text.trim (k.record value)) = KeyTags.read (Text.trim (k.record other)) := by
  obtain ⟨shown, isShown, ofShown, solid⟩ := k.trim_record value onePart
  obtain ⟨shown', isShown', ofShown', solid'⟩ := k.trim_record other onePart'
  rw [isShown, isShown', read_record _ _ ofShown, read_record _ _ ofShown', solid, solid', same]

theorem recordIn?_record (k : KeyPlace) (value : List Char) :
    recordIn? (k.record value) = some (Text.trim (k.record value)) :=
  (recordIn?_eq_some _ _).mpr ⟨_, ⟨List.suffix_rfl, (k.begins value).beginsTag,
    fun _ suffix _ => suffix⟩, k.begins value, rfl⟩

end KeyPlace

theorem assess_append (o : Outcome) (name : DomainName) (earlier later : List String)
    (text record : List Char) (isRecord : recordIn? text = some record) :
    assess o name (.ok (earlier ++ String.ofList text :: later)) =
      assessRecord o ((findRecord? earlier).getD (String.ofList record)) := by
  have found : findRecord? (earlier ++ String.ofList text :: later) =
      some ((findRecord? earlier).getD (String.ofList record)) := by
    rw [findRecord?, findRecord?, List.findSome?_append, List.findSome?_cons,
      String.toList_ofList, isRecord]
    cases earlier.findSome? fun answer => recordIn? answer.toList <;> rfl
  rw [assess, found]

theorem assessRecord_alike (o : Outcome) (first second : String)
    (same : KeyTags.read first.toList = KeyTags.read second.toList) :
    assessRecord o second = { assessRecord o first with record := some second } := by
  simp only [assessRecord, same]
  split <;> rfl

/-- A record whose key is cut into chunks, put into strings that fit, and published in quotes
however they are spelled, is read as the record itself: the outcome of a probe is the same but
for the text of the record. -/
theorem probe_of_split_key (k : KeyPlace) (chunks : List (List Char))
    (solid : ∀ chunk ∈ chunks, chunk ≠ []) (onePart : ';' ∉ chunks.flatten)
    (fits : ∀ text ∈ KeyPlace.strings k.before k.after chunks, text.length ≤ 255)
    (data : String)
    (presents : Txt.Presents (KeyPlace.strings k.before k.after chunks) data.toList)
    (earlier later : List String) (whole split : Resolver) (selector domain : String)
    (publishesWhole : ∀ name, keyName (Text.trimmed selector) domain = .ok name →
      (whole name).texts = .ok (earlier ++ String.ofList (k.record chunks.flatten) :: later))
    (publishesSplit : ∀ name, keyName (Text.trimmed selector) domain = .ok name →
      (split name).texts = .ok (earlier ++ Txt.reconstruct data :: later)) :
    ∃ record, probe split domain selector =
      ({ (probe whole domain selector).1 with record }, (probe whole domain selector).2) := by
  have nonempty : k.before ≠ [] := by
    rw [KeyPlace.before]
    exact List.append_ne_nil_of_right_ne_nil _ (List.cons_ne_nil _ _)
  have isRead : Txt.reconstruct data =
      String.ofList (k.record ([' '].intercalate chunks)) := by
    rw [Txt.reconstruct_whole _ data (KeyPlace.strings_ne_nil _ _ _) presents
      (KeyPlace.strings_solid _ _ _ solid (Or.inl nonempty)) fits, KeyPlace.spaced_strings]
    rfl
  have spaced : ';' ∉ [' '].intercalate chunks := by
    intro member
    have inSolids : ';' ∈ solids ([' '].intercalate chunks) :=
      List.mem_filter.mpr ⟨member, by decide⟩
    rw [Text.solids_spaced] at inSolids
    exact onePart (List.mem_filter.mp inSolids).1
  have same := k.read_trim_record _ _ onePart spaced (Text.solids_spaced chunks).symm
  simp only [probe]
  split
  · exact ⟨_, rfl⟩
  · cases named : keyName (Text.trimmed selector) domain with
    | error failure => exact ⟨_, rfl⟩
    | ok name =>
        have alike : KeyTags.read ((findRecord? earlier).getD (String.ofList (Text.trim
              (k.record chunks.flatten)))).toList =
            KeyTags.read ((findRecord? earlier).getD (String.ofList (Text.trim
              (k.record ([' '].intercalate chunks))))).toList := by
          cases findRecord? earlier with
          | some record => rfl
          | none => simpa only [Option.getD_none, String.toList_ofList] using same
        simp only [publishesWhole name named, publishesSplit name named, isRead,
          assess_append _ _ _ _ _ _ (k.recordIn?_record _), assessRecord_alike _ _ _ alike]
        exact ⟨_, rfl⟩

def taggedPlace : KeyPlace where
  front := "v=DKIM1; k=rsa".toList
  name := " P ".toList
  after := "; t=y ".toList
  opens := ⟨"v=DKIM1".toList, [], " k=rsa;".toList, by decide, by decide, by simp⟩
  isKey := by decide
  onePart := by decide
  ends := Or.inr ⟨" t=y ".toList, by decide⟩

def keyChunks : List (List Char) :=
  ["MIGf".toList, "MA0G".toList, "CSq=".toList]

def splitData : String := "\"v=DKIM1; k=rsa; P =MIGf\" \"\\077A0G\"\"CSq=; t=y \""

theorem splitKey_probed :
    (∀ chunk ∈ keyChunks, chunk ≠ []) ∧ ';' ∉ keyChunks.flatten ∧
    (∀ text ∈ KeyPlace.strings taggedPlace.before taggedPlace.after keyChunks,
      text.length ≤ 255) ∧
    Txt.Presents (KeyPlace.strings taggedPlace.before taggedPlace.after keyChunks)
      splitData.toList ∧
    (∃ record, probe (fun _ => ⟨.ok [Txt.reconstruct splitData], 0⟩) "a.example" "s1" =
      ({ (probe (fun _ => ⟨.ok ["v=DKIM1; k=rsa; P =MIGfMA0GCSq=; t=y "], 0⟩)
          "a.example" "s1").1 with record },
        (probe (fun _ => ⟨.ok ["v=DKIM1; k=rsa; P =MIGfMA0GCSq=; t=y "], 0⟩)
          "a.example" "s1").2)) ∧
    (probe (fun _ => ⟨.ok ["v=DKIM1; k=rsa; P =MIGfMA0GCSq=; t=y "], 0⟩)
      "a.example" "s1").1.keyBits = some 64 := by
  have solid : ∀ chunk ∈ keyChunks, chunk ≠ [] := by decide
  have onePart : ';' ∉ keyChunks.flatten := by decide
  have fits : ∀ text ∈ KeyPlace.strings taggedPlace.before taggedPlace.after keyChunks,
      text.length ≤ 255 := by decide
  have presents : Txt.Presents (KeyPlace.strings taggedPlace.before taggedPlace.after keyChunks)
      splitData.toList := by
    have parts : splitData.toList = [] ++ '"' :: ("v=DKIM1; k=rsa; P =MIGf".toList ++ '"' ::
        ([' '] ++ '"' :: (((String.utf8EncodeChar 'M').flatMap Txt.decimalEscape ++
          "A0G".toList) ++ '"' :: ([] ++ '"' :: ("CSq=; t=y ".toList ++ '"' :: []))))) := by
      decide +kernel
    have plain := Txt.writes_plain
    have first : Txt.Writes "v=DKIM1; k=rsa; P =MIGf".toList _ := plain _ (by decide) (by decide)
    have second : Txt.Writes ['M', 'A', '0', 'G'] _ :=
      .cons .decimal (plain _ (by decide) (by decide))
    have third : Txt.Writes "CSq=; t=y ".toList _ := plain _ (by decide) (by decide)
    rw [parts]
    exact .quoted (by decide) first (.quoted (by decide) second
      (.quoted (by decide) third (.last (by decide))))
  refine ⟨solid, onePart, fits, presents, ?_, by decide +kernel⟩
  exact probe_of_split_key taggedPlace keyChunks solid onePart fits splitData presents [] [] _ _
    "s1" "a.example" (fun _ _ => rfl) (fun _ _ => rfl)

end SenderAudit.Dkim
