import SenderAudit.Proofs.Doh.Requests
import SenderAudit.Proofs.Json.Renderings

/-!
Replies are read from any rendering. The fields of an object may stand in any order among others,
and a field may be left out where its value says nothing; the records of a reply are then those
that were put in, and a lookup gives the data of those of its type.
-/
namespace SenderAudit

namespace Json

/-! Objects with known fields. -/

def SpelledAs (octets : List UInt8) (text : String) : Prop :=
  ∃ written, SpellsText text.toList written ∧ octets = Utf8.encode written

theorem characters?_spelledAs {octets : List UInt8} {text : String}
    (spelled : SpelledAs octets text) : characters? octets = some text := by
  obtain ⟨written, spells, rfl⟩ := spelled
  exact characters?_spells text written spells

def IsText (text : String) (tree : Tree) : Prop :=
  ∃ octets, SpelledAs octets text ∧ tree = .text octets

theorem text?_isText {text : String} {tree : Tree} (isText : IsText text tree) :
    tree.text? = some text := by
  obtain ⟨octets, spelled, rfl⟩ := isText
  exact characters?_spelledAs spelled

def decimal (n : Nat) : Tree :=
  .word (Nat.toDigits 10 n)

theorem natural?_decimal (limit n : Nat) (atMost : n ≤ limit) :
    (decimal n).natural? limit = some n := by
  rw [decimal, Tree.natural?, isWhole_toDigits, digitsValue_toDigits, decide_eq_true atMost]
  rfl

theorem natural?_eq_none (limit : Nat) (letters : List Char)
    (other : ∀ n ≤ limit, letters ≠ Nat.toDigits 10 n) :
    Tree.natural? limit (.word letters) = none := by
  apply if_neg
  intro both
  obtain ⟨whole, atMost⟩ := Bool.and_eq_true_iff.mp both
  exact other _ (of_decide_eq_true atMost) (toDigits_digitsValue letters whole).symm

/-- The objects with known fields, in any order and among any others with names of their own. -/
inductive IsObject (names : List String) (known : List (String × Tree)) : Tree → Prop
  | intro {fields : List (List UInt8 × Tree)} {named others : List (String × Tree)}
      (decoded : List.Forall₂ (fun field name => SpelledAs field.1 name.1 ∧ field.2 = name.2)
        fields named)
      (order : named.Perm (known ++ others)) (unknown : ∀ other ∈ others, other.1 ∉ names) :
      IsObject names known (.object fields)

/-- A field that may be left out where its value is the one that is taken then. -/
inductive Optional (name : String) (isDefault : Prop) (holds : Tree → Prop) :
    List (String × Tree) → Prop
  | missing (default : isDefault) : Optional name isDefault holds []
  | given {tree : Tree} (isHeld : holds tree) : Optional name isDefault holds [(name, tree)]

theorem mapM_decoded {fields : List (List UInt8 × Tree)} {named : List (String × Tree)}
    (decoded : List.Forall₂ (fun field name => SpelledAs field.1 name.1 ∧ field.2 = name.2)
      fields named) :
    fields.mapM (fun (key, value) => (characters? key).map (·, value)) = some named := by
  induction decoded with
  | nil => rfl
  | @cons field name fields named isField _ ih =>
      obtain ⟨key, value⟩ := field
      obtain ⟨spelled, same⟩ := isField
      dsimp only at same
      subst same
      rw [List.mapM_cons, ih]
      dsimp only
      rw [characters?_spelledAs spelled]
      rfl

theorem field?_known (names : List String) (named known others : List (String × Tree))
    (order : named.Perm (known ++ others)) (unknown : ∀ other ∈ others, other.1 ∉ names)
    (name : String) (isName : name ∈ names) : Tree.field? named name = Tree.field? known name := by
  have none : others.filter (·.1 == name) = [] := by
    apply List.filter_eq_nil_iff.mpr
    intro other member same
    exact unknown other member (beq_iff_eq.mp same ▸ isName)
  have same := order.filter (·.1 == name)
  rw [List.filter_append, none, List.append_nil] at same
  rw [Tree.field?, Tree.field?]
  generalize named.filter (·.1 == name) = found at same
  generalize known.filter (·.1 == name) = sought at same
  -- No field, one field, or several, of which none is taken.
  rcases sought with _ | ⟨first, _ | ⟨second, rest⟩⟩
  · rw [same.eq_nil]
  · rw [List.perm_singleton.mp same]
  · have length := same.length_eq
    rcases found with _ | ⟨_, _ | ⟨_, _⟩⟩
    · cases length
    · cases length
    · rfl

theorem parts?_isObject {names : List String} {known : List (String × Tree)} {tree : Tree}
    (isObject : IsObject names known tree) :
    tree.parts? names = names.mapM (Tree.field? known) := by
  cases isObject with
  | @intro fields named others decoded order unknown =>
      have each : ∀ some : List String, (∀ name ∈ some, name ∈ names) →
          some.mapM (Tree.field? named) = some.mapM (Tree.field? known) := by
        intro some within
        induction some with
        | nil => rfl
        | cons name rest ih =>
            obtain ⟨isName, later⟩ := List.forall_mem_cons.mp within
            rw [List.mapM_cons, List.mapM_cons, ih later,
              field?_known names named known others order unknown name isName]
      have decodes := mapM_decoded decoded
      rw [Tree.parts?, decodes]
      exact each names fun _ member => member

end Json

namespace Doh

open Json (Tree IsText IsObject Optional decimal)

/-- A record as it is put in a reply: its type is a number in any form. -/
structure Entry where
  owner : String
  type : List Char
  lifetime : Nat
  data : String

namespace Entry

def HasType (e : Entry) (n : Nat) : Prop :=
  e.type = Nat.toDigits 10 n

instance (e : Entry) (n : Nat) : Decidable (e.HasType n) :=
  inferInstanceAs (Decidable (_ = _))

inductive IsTree (e : Entry) : Tree → Prop
  | intro {owner lifetime : List (String × Tree)} {data tree : Tree}
      (isOwner : Optional "name" (e.owner = "") (IsText e.owner) owner)
      (isLifetime : Optional "TTL" (e.lifetime = 0) (· = decimal e.lifetime) lifetime)
      (isData : IsText e.data data)
      (isObject : IsObject ["name", "type", "TTL", "data"]
        (("type", .word e.type) :: ("data", data) :: (owner ++ lifetime)) tree) : e.IsTree tree

def record? (e : Entry) : Option ResourceRecord :=
  (Tree.natural? (UInt16.size - 1) (.word e.type)).map fun type => ⟨type, e.data⟩

theorem ofTree?_isTree {e : Entry} {tree : Tree} (isTree : e.IsTree tree)
    (small : e.lifetime < UInt32.size) : ResourceRecord.ofTree? tree = e.record? := by
  cases isTree with
  | @intro owner lifetime data tree isOwner isLifetime isData isObject =>
      have found : ["name", "type", "TTL", "data"].mapM
          (Tree.field? (("type", .word e.type) :: ("data", data) :: (owner ++ lifetime))) =
          some [owner.head?.map Prod.snd, some (.word e.type), lifetime.head?.map Prod.snd,
            some data] := by
        cases isOwner <;> cases isLifetime <;> rfl
      have hasOwner : (owner.head?.map Prod.snd).all (·.text?.isSome) = true := by
        cases isOwner with
        | missing => rfl
        | given isText => simp [Json.text?_isText isText]
      have hasLifetime : (lifetime.head?.map Prod.snd).all
          (fun tree => (tree.natural? (UInt32.size - 1)).isSome) = true := by
        cases isLifetime with
        | missing => rfl
        | given isHeld =>
            subst isHeld
            change (Tree.natural? (UInt32.size - 1) (decimal e.lifetime)).isSome = true
            rw [Json.natural?_decimal (UInt32.size - 1) e.lifetime (by omega)]
            rfl
      rw [ResourceRecord.ofTree?, Json.parts?_isObject isObject, found]
      simp only [Json.text?_isText isData, hasOwner, hasLifetime, record?, Bool.and_self]
      cases Tree.natural? (UInt16.size - 1) (.word e.type) <;> rfl

theorem record?_of_type (e : Entry) (n : Nat) (small : n < UInt16.size) (typed : e.HasType n) :
    e.record? = some ⟨n, e.data⟩ := by
  have read := Json.natural?_decimal (UInt16.size - 1) n (by omega)
  rw [record?, typed, ← decimal, read]
  rfl

theorem record?_eq_none (e : Entry) (untyped : ∀ n < UInt16.size, ¬ e.HasType n) :
    e.record? = none := by
  have unread := Json.natural?_eq_none (UInt16.size - 1) e.type fun n atMost =>
    untyped n (Nat.lt_of_le_of_lt atMost (by decide))
  rw [record?, unread]
  rfl

end Entry

section Entries

variable (entries : List Entry)

theorem mapM_ofTree? {trees : List Tree} (areTrees : List.Forall₂ Entry.IsTree entries trees)
    (small : ∀ e ∈ entries, e.lifetime < UInt32.size) :
    trees.mapM ResourceRecord.ofTree? = entries.mapM Entry.record? := by
  induction areTrees with
  | nil => rfl
  | cons isTree _ ih =>
      obtain ⟨isSmall, later⟩ := List.forall_mem_cons.mp small
      rw [List.mapM_cons, List.mapM_cons, ih later, Entry.ofTree?_isTree isTree isSmall]

theorem mapM_record? (typed : ∀ e ∈ entries, ∃ n < UInt16.size, e.HasType n) :
    ∃ records, entries.mapM Entry.record? = some records ∧ ∀ code,
      (records.filter (·.type = code)).map (·.data) =
        (entries.filter (·.HasType code)).map (·.data) := by
  induction entries with
  | nil => exact ⟨[], rfl, fun _ => rfl⟩
  | cons e rest ih =>
      obtain ⟨⟨n, small, isType⟩, later⟩ := List.forall_mem_cons.mp typed
      obtain ⟨records, read, same⟩ := ih later
      refine ⟨⟨n, e.data⟩ :: records, ?_, fun code => ?_⟩
      · rw [List.mapM_cons, e.record?_of_type n small isType, read]
        rfl
      · have asType : e.HasType code ↔ n = code := by
          constructor
          · intro other
            have digits := isType.symm.trans other
            rw [← Json.digitsValue_toDigits n, digits, Json.digitsValue_toDigits]
          · rintro rfl
            exact isType
        by_cases isCode : n = code
        · simp [isCode, asType, same]
        · simp [isCode, asType, same]

theorem mapM_record?_eq_none (e : Entry) (member : e ∈ entries)
    (untyped : ∀ n < UInt16.size, ¬ e.HasType n) : entries.mapM Entry.record? = none := by
  induction entries with
  | nil => cases member
  | cons first rest ih =>
      rw [List.mapM_cons]
      rcases List.mem_cons.mp member with rfl | later
      · rw [e.record?_eq_none untyped]
        rfl
      · rw [ih later]
        cases first.record? <;> rfl

end Entries

inductive IsReply (status : Nat) (entries : List Entry) : Tree → Prop
  | intro {answers : List (String × Tree)} {tree : Tree}
      (areAnswers : Optional "Answer" (entries = []) (fun tree =>
        ∃ trees, tree = .array trees ∧ List.Forall₂ Entry.IsTree entries trees) answers)
      (isObject : IsObject ["Status", "Answer"] (("Status", decimal status) :: answers) tree) :
      IsReply status entries tree

inductive RendersReply (status : Nat) (entries : List Entry) : String → Prop
  | intro {tree : Tree} {s t : String} (isReply : IsReply status entries tree)
      (renders : Json.Renders tree s) (padded : Json.Padded s t) : RendersReply status entries t

theorem read?_reply {status : Nat} {entries : List Entry} {text : String}
    (renders : RendersReply status entries text) (small : status < UInt32.size)
    (lifetimes : ∀ e ∈ entries, e.lifetime < UInt32.size) :
    Reply.read? (Json.octets text) =
      (entries.mapM Entry.record?).map fun records => ⟨status, records⟩ := by
  obtain ⟨isReply, isRendered, padded⟩ := renders
  rw [Reply.read?, Json.read?_rendering isRendered padded, Option.bind_some]
  cases isReply with
  | @intro answers tree areAnswers isObject =>
      have number := Json.natural?_decimal (UInt32.size - 1) status (by omega)
      have found : ["Status", "Answer"].mapM
          (Tree.field? (("Status", decimal status) :: answers)) =
          some [some (decimal status), answers.head?.map Prod.snd] := by
        cases areAnswers <;> rfl
      have records : recordsOfTree? (answers.head?.map Prod.snd) =
          entries.mapM Entry.record? := by
        cases areAnswers with
        | missing none =>
            rw [none]
            rfl
        | given isArray =>
            obtain ⟨trees, rfl, areTrees⟩ := isArray
            exact mapM_ofTree? entries areTrees lifetimes
      rw [Reply.ofTree?, Json.parts?_isObject isObject, found]
      dsimp only
      rw [number, records]
      cases entries.mapM Entry.record? <;> rfl

namespace Client

/-- What is received in full as a rendering of a reply decides a lookup. With status 0 it gives
the data of the entries of its type in order; status 3 says that there is no such name, and any
other is told. If the type of an entry is no number of 16 bits, the lookup fails. -/
theorem resolve_rendered (c : Client) (server : Server) (name : String) (type : RecordType)
    (url : Url) (status : Nat) (entries : List Entry) (text : String)
    (asked : c.requestUrl? name type = some url)
    (received : server url = .complete 200 (Utf8.encode text.toList))
    (renders : RendersReply status entries text) (small : status < 2 ^ 32)
    (lifetimes : ∀ e ∈ entries, e.lifetime < 2 ^ 32) :
    ((∀ e ∈ entries, ∃ n < 2 ^ 16, e.HasType n) →
      c.resolve server name type =
        if status = 0 then .ok ((entries.filter (·.HasType type.code)).map (·.data))
        else if status = 3 then .error (.nameNotFound (Text.trimmed name))
        else .error (.resolution (Text.trimmed name) type status)) ∧
    ((∃ e ∈ entries, ∀ n < 2 ^ 16, ¬ e.HasType n) →
      ∃ reason, c.resolve server name type =
        .error (.transport (Text.trimmed name) (some 200) reason)) := by
  have read := read?_reply renders small lifetimes
  have sent := c.resolve_of_request server type name url asked
  rw [received, readExchange, readResponse, if_pos (by decide), ← Json.octets, read] at sent
  constructor
  · intro typed
    obtain ⟨records, isRead, same⟩ := mapM_record? entries typed
    rw [isRead] at sent
    rw [sent, ← same]
    rfl
  · rintro ⟨e, member, untyped⟩
    rw [mapM_record?_eq_none entries e member untyped] at sent
    exact ⟨_, sent⟩

/-! A reply with one record, whose data are spelled with an escape, and with a field that is not
known. -/

def escapedData : List Char := ['\\', 'u', '0', '0', '6', '1']

def exampleEntry (type : Nat) : Entry where
  owner := ""
  type := Nat.toDigits 10 type
  lifetime := 0
  data := "a"

def exampleRecord (type : Nat) : String :=
  "\x7b" ++ ((Json.inQuotes "type".toList ++ (":" ++ (String.ofList (Nat.toDigits 10 type) ++
    ("," ++ (Json.inQuotes "data".toList ++ (":" ++ Json.inQuotes escapedData)))))) ++ "\x7d")

def exampleReply (type : Nat) : String :=
  let status := Json.inQuotes "Status".toList ++ (":" ++ String.ofList (Nat.toDigits 10 0))
  let checked := Json.inQuotes "AD".toList ++ (":" ++ ("true" ++ ("," ++ status)))
  let answers := "[" ++ (exampleRecord type ++ "]")
  "\x7b" ++ ((Json.inQuotes "Answer".toList ++ (":" ++ (answers ++ ("," ++ checked)))) ++ "\x7d")

theorem exampleReply_renders (type : Nat) :
    RendersReply 0 [exampleEntry type] (exampleReply type) := by
  have number (n : Nat) : Json.Renders (decimal n) (String.ofList (Nat.toDigits 10 n)) := by
    have renders := @Json.Renders.number (String.ofList (Nat.toDigits 10 n))
    rw [String.toList_ofList] at renders
    exact renders (Json.number_toDigits n)
  have plain (text : String) (each : text.toList.all (Json.IsPlain ·) = true) :
      Json.SpellsText text.toList text.toList :=
    Json.spellsText_self _ fun c member => of_decide_eq_true (List.all_eq_true.mp each c member)
  have escaped : Json.SpellsText "a".toList escapedData := by
    have first : Json.Spells 'a' escapedData := .digits ⟨by decide, by decide⟩
    exact .cons first .nil
  have typeName := plain "type" (by decide +kernel)
  have dataName := plain "data" (by decide +kernel)
  have answerName := plain "Answer" (by decide +kernel)
  have checkedName := plain "AD" (by decide +kernel)
  have statusName := plain "Status" (by decide +kernel)
  have record : Json.Renders (.object [(Utf8.encode "type".toList, decimal type),
      (Utf8.encode "data".toList, .text (Utf8.encode escapedData))]) (exampleRecord type) :=
    .object (.more typeName.isInner (Json.padded_self _) (number type) (Json.padded_self _)
      (.last dataName.isInner (Json.padded_self _) (.text escaped.isInner) (Json.padded_self _)))
  have isRecord : (exampleEntry type).IsTree (.object [(Utf8.encode "type".toList, decimal type),
      (Utf8.encode "data".toList, .text (Utf8.encode escapedData))]) :=
    .intro (.missing rfl) (.missing rfl) ⟨_, ⟨_, escaped, rfl⟩, rfl⟩
      (.intro (.cons ⟨⟨_, typeName, rfl⟩, rfl⟩ (.cons ⟨⟨_, dataName, rfl⟩, rfl⟩ .nil))
        (.refl _) (List.forall_mem_nil _))
  have answers : Json.Renders (.array [.object [(Utf8.encode "type".toList, decimal type),
      (Utf8.encode "data".toList, .text (Utf8.encode escapedData))]])
        ("[" ++ (exampleRecord type ++ "]")) :=
    .array (.last record (Json.padded_self _))
  have checked : Json.Renders (.word "true".toList) "true" := .literal (by simp)
  have reply := Json.Renders.object (.more answerName.isInner (Json.padded_self _) answers
    (Json.padded_self _) (.more checkedName.isInner (Json.padded_self _) checked
      (Json.padded_self _) (.last statusName.isInner (Json.padded_self _) (number 0)
        (Json.padded_self _))))
  refine .intro (.intro (.given ⟨_, rfl, .cons isRecord .nil⟩) (@IsObject.intro _ _ _
    [("Answer", _), ("AD", .word "true".toList), ("Status", decimal 0)]
    [("AD", .word "true".toList)]
    (.cons ⟨⟨_, answerName, rfl⟩, rfl⟩ (.cons ⟨⟨_, checkedName, rfl⟩, rfl⟩
      (.cons ⟨⟨_, statusName, rfl⟩, rfl⟩ .nil))) ?_ ?_)) reply (Json.padded_self _)
  · exact @List.perm_append_comm _ [_, _] [_]
  · exact List.forall_mem_singleton.mpr (by decide)

theorem exampleReply_resolved :
    exampleReply 16 =
      "\x7b\"Answer\":[\x7b\"type\":16,\"data\":\"\\u0061\"\x7d],\"AD\":true,\"Status\":0\x7d" ∧
    (shortClient 2048).resolve (fun _ => .complete 200 (Utf8.encode (exampleReply 16).toList))
      "example.org" .txt = .ok ["a"] ∧
    ∃ reason, (shortClient 2048).resolve
      (fun _ => .complete 200 (Utf8.encode (exampleReply 65552).toList)) "example.org" .txt =
        .error (.transport "example.org" (some 200) reason) := by
  have asked : (shortClient 2048).requestUrl? "example.org" .txt =
      some (addressOf shortEndpoint "example.org" .txt) :=
    (shortClient 2048).requestUrl?_name shortEndpoint .txt exampleName parse_shortEndpoint
      (by decide +kernel) (by decide +kernel)
  have trimmed : Text.trimmed "example.org" = "example.org" := by decide +kernel
  have resolved (type : Nat) := resolve_rendered (shortClient 2048)
    (fun _ => .complete 200 (Utf8.encode (exampleReply type).toList)) "example.org" .txt _ 0
    [exampleEntry type] (exampleReply type) asked rfl (exampleReply_renders type) (by decide)
    (List.forall_mem_singleton.mpr (Nat.two_pow_pos 32))
  rw [trimmed] at resolved
  refine ⟨by decide +kernel, ?_, ?_⟩
  · have found := (resolved 16).1 (List.forall_mem_singleton.mpr ⟨16, by decide, rfl⟩)
    rw [found]
    decide
  · apply (resolved 65552).2
    refine ⟨_, List.mem_singleton_self _, fun n small typed => ?_⟩
    have same := congrArg Text.digitsValue typed
    rw [exampleEntry, Json.digitsValue_toDigits, Json.digitsValue_toDigits] at same
    omega

end Client

end Doh

end SenderAudit
