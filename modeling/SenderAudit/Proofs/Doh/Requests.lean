import SenderAudit.Doh.Client
import SenderAudit.Proofs.NameGrammar
import SenderAudit.Proofs.Url.Ascii

/-!
What is asked of a server. A name in canonical form is asked for as it stands, so that the
address of the query is longer than that of the server by a fixed amount and the lengths of the
name and the type; the query is sent unless that is too long.
-/
namespace SenderAudit

namespace Url

theorem formEncoded_safe (s : List Char) (safe : ∀ c ∈ s, isFormSafe c = true) :
    formEncoded s = s := by
  induction s with
  | nil => rfl
  | cons c rest ih =>
      obtain ⟨first, later⟩ := List.forall_mem_cons.mp safe
      rw [formEncoded, List.flatMap_cons, if_pos first, ← formEncoded, ih later]
      rfl

/-- A parameter adds itself and a sign before it, unless an empty query has that sign already. -/
theorem withParameter_length (u : Url) (name value : String) :
    (u.withParameter name value).characters.length + (if u.query = some [] then 1 else 0) =
      u.characters.length + (formEncoded name.toList).length +
        (formEncoded value.toList).length + 2 := by
  rcases u with ⟨scheme, origin, path, query, fragment⟩
  rcases query with _ | query
  case none =>
    simp [withParameter, characters, target, marked]
    omega
  case some =>
    rcases query with _ | ⟨c, rest⟩
    all_goals
      simp [withParameter, characters, target, marked]
      omega

theorem withParameter_query (u : Url) (name value : String) :
    (u.withParameter name value).query ≠ some [] := by
  rcases u with ⟨scheme, origin, path, query, fragment⟩
  rcases query with _ | query
  case none => simp [withParameter]
  case some => rcases query with _ | ⟨c, rest⟩ <;> simp [withParameter]

theorem octets_of_ascii (url : Url) (ascii : Idna.allAscii url.characters = true) :
    url.text.utf8ByteSize = url.characters.length := by
  rw [← Utf8.length_toList, text, String.toList_ofList]
  apply Utf8.length_of_small
  intro c member
  exact of_decide_eq_true (List.all_eq_true.mp ascii c member)

end Url

namespace DomainName

theorem isNameChar_formSafe (c : Char) (isChar : isNameChar c = true) :
    Url.isFormSafe c = true := by
  have small : c.toNat < 128 := of_decide_eq_true (isNameChar_plain c isChar).2.2
  exact Text.of_table (P := fun c => isNameChar c = true → Url.isFormSafe c = true) (by decide)
    c small isChar

theorem trimmed_text (name : DomainName) : Text.trimmed name.text = name.text := by
  rw [Text.trimmed, Text.trim_eq_self, String.ofList_toList]
  intro c member
  exact (isNameChar_plain c (canonical_chars _ name.canonical c member)).1

theorem octets_text (name : DomainName) :
    name.text.utf8ByteSize = name.text.toList.length := by
  rw [octets_of_labels name.text name.canonical.2, String.length_toList]

end DomainName

namespace Doh

theorem typeName_formSafe (type : RecordType) :
    ∀ c ∈ type.name.toList, Url.isFormSafe c = true := by
  apply List.all_eq_true.mp
  cases type <;> decide +kernel

theorem octets_typeName (type : RecordType) :
    type.name.utf8ByteSize = type.name.toList.length := by
  cases type <;> decide +kernel

def addressOf (endpoint : Url) (name : String) (type : RecordType) : Url :=
  (endpoint.withParameter "name" name).withParameter "type" type.name

theorem addressOf_length (endpoint : Url) (name : DomainName) (type : RecordType) :
    (addressOf endpoint name.text type).characters.length +
        (if endpoint.query = some [] then 1 else 0) =
      endpoint.characters.length + name.text.toList.length + type.name.toList.length + 12 := by
  have nameSafe : ∀ c ∈ name.text.toList, Url.isFormSafe c = true := fun c member =>
    DomainName.isNameChar_formSafe c (DomainName.canonical_chars _ name.canonical c member)
  have keysSafe : Url.formEncoded "name".toList = "name".toList ∧
      Url.formEncoded "type".toList = "type".toList := by decide +kernel
  have first := endpoint.withParameter_length "name" name.text
  have second := (endpoint.withParameter "name" name.text).withParameter_length "type" type.name
  rw [if_neg (endpoint.withParameter_query "name" name.text), keysSafe.2,
    Url.formEncoded_safe _ (typeName_formSafe type)] at second
  rw [keysSafe.1, Url.formEncoded_safe _ nameSafe] at first
  have letters : "name".toList.length = 4 ∧ "type".toList.length = 4 := by decide +kernel
  rw [addressOf]
  omega

namespace Client

variable (c : Client) (server : Server) (endpoint : Url) (type : RecordType)

theorem resolve_of_request (name : String) (url : Url)
    (asked : c.requestUrl? name type = some url) :
    c.resolve server name type =
      (c.readExchange (Text.trimmed name) type url (server url)).bind
        (readReply (Text.trimmed name) type) := by
  unfold requestUrl? at asked
  split at asked
  case h_1 found isFound =>
    split at asked
    case isTrue web =>
      cases asked
      have sent : exchange server url = server url := if_pos web
      unfold resolve
      dsimp only
      rw [isFound, ← sent]
      rfl
    case isFalse => cases asked
  case h_2 => cases asked

theorem sent_not_invalid (name : String) (url : Url) (sent : Exchange) (input : String)
    (fault : QueryFault) :
    (c.readExchange name type url sent).bind (readReply name type) ≠
      .error (.invalidInput input fault) := by
  have replied (reply : Reply) :
      readReply name type reply ≠ .error (.invalidInput input fault) := by
    unfold readReply
    split
    · simp
    · split <;> simp
  cases sent with
  | lost => simp [readExchange, Except.bind]
  | silent => simp [readExchange, Except.bind]
  | cutShort status => simp [readExchange, Except.bind]
  | complete status body =>
      rw [readExchange, readResponse]
      split
      · split
        · exact replied _
        · simp [Except.bind]
      · simp [Except.bind]

theorem queryUrl_name (name : DomainName) (isEndpoint : Url.parse c.endpoint = .ok endpoint) :
    c.queryUrl name.text type =
      if (addressOf endpoint name.text type).characters.length > c.maxUrlLength then
        .error (.longUrl (addressOf endpoint name.text type).characters.length c.maxUrlLength)
      else .ok (addressOf endpoint name.text type) := by
  have length : Utf8.length name.text.toList = name.text.toList.length := by
    rw [Utf8.length_toList, name.octets_text]
  have nonempty : Utf8.length name.text.toList ≠ 0 := by
    rw [length]
    exact mt List.length_eq_zero_iff.mp (DomainName.canonical_ne_nil _ name.canonical)
  have short : ¬ Utf8.length name.text.toList > DomainName.maxLength := by
    rw [length]
    exact Nat.not_lt.mpr name.canonical.1
  rw [queryUrl]
  simp only [nonempty, short, isEndpoint, ↓reduceIte]
  rfl

theorem requestUrl?_name (name : DomainName) (isEndpoint : Url.parse c.endpoint = .ok endpoint)
    (web : endpoint.isWeb = true)
    (room : (addressOf endpoint name.text type).characters.length ≤ c.maxUrlLength) :
    c.requestUrl? name.text type = some (addressOf endpoint name.text type) := by
  have webQuery : (addressOf endpoint name.text type).isWeb = true := web
  rw [requestUrl?, name.trimmed_text, c.queryUrl_name endpoint type name isEndpoint,
    if_neg (Nat.not_lt.mpr room)]
  exact if_pos webQuery

/-- A name that is read as itself is sent to a server over the web if the address has room for
it; what is sent keeps to the limit, and no fault is found with the name. If there is no room and
the address of the server has neither query nor fragment, the name is refused and nothing is
sent. -/
theorem name_sent_of_room (n : String) (name : DomainName)
    (isName : DomainName.parse n = .ok name) (fixed : name.text = n)
    (isEndpoint : Url.parse c.endpoint = .ok endpoint) (web : endpoint.isWeb = true) :
    (endpoint.text.utf8ByteSize + n.utf8ByteSize + type.name.utf8ByteSize + 12 ≤ c.maxUrlLength →
      c.requestUrl? n type = some (addressOf endpoint n type) ∧
      (addressOf endpoint n type).text.utf8ByteSize ≤ c.maxUrlLength ∧
      ∀ server : Server,
        c.resolve server n type =
          (c.readExchange n type (addressOf endpoint n type)
            (server (addressOf endpoint n type))).bind (readReply n type) ∧
        ∀ input fault, c.resolve server n type ≠ .error (.invalidInput input fault)) ∧
    (endpoint.query = none → endpoint.fragment = none →
      c.maxUrlLength < endpoint.text.utf8ByteSize + n.utf8ByteSize + type.name.utf8ByteSize + 12 →
      c.requestUrl? n type = none ∧
      ∀ server : Server,
        c.resolve server n type = .error (.invalidInput n (.longUrl
          (endpoint.text.utf8ByteSize + n.utf8ByteSize + type.name.utf8ByteSize + 12)
          c.maxUrlLength))) := by
  subst fixed
  have isQuery := c.queryUrl_name endpoint type name isEndpoint
  have length := addressOf_length endpoint name type
  have ascii := Url.parse_ascii c.endpoint endpoint isEndpoint
  have octets := Url.octets_of_ascii (addressOf endpoint name.text type)
    (Url.withParameter_ascii _ _ _ (Url.withParameter_ascii _ _ _ ascii))
  rw [Url.octets_of_ascii endpoint ascii, name.octets_text, octets_typeName type]
  constructor
  case left =>
    intro room
    have asked := c.requestUrl?_name endpoint type name isEndpoint web (by omega)
    refine ⟨asked, by omega, fun server => ?_⟩
    have sent := c.resolve_of_request server type name.text _ asked
    rw [name.trimmed_text] at sent
    refine ⟨sent, fun input fault => ?_⟩
    rw [sent]
    exact c.sent_not_invalid type _ _ _ input fault
  case right =>
    intro noQuery _ noRoom
    rw [noQuery, if_neg (by simp)] at length
    rw [if_pos (by omega), ← Nat.add_zero (List.length _), length] at isQuery
    constructor
    · rw [requestUrl?, name.trimmed_text, isQuery]
    · intro server
      unfold resolve
      dsimp only
      rw [name.trimmed_text, isQuery]
      rfl

def shortClient (maxUrlLength : Nat) : Client :=
  { endpoint := "HTTPS://Dns.Example:443", maxUrlLength }

def shortEndpoint : Url where
  scheme := "https".toList
  origin := some { credentials := [], host := "dns.example".toList, port := none }
  path := ['/']
  query := none
  fragment := none

theorem parse_shortEndpoint : Url.parse "HTTPS://Dns.Example:443" = .ok shortEndpoint := by
  decide +kernel

def exampleName : DomainName where
  text := "example.org"
  canonical := DomainName.fault?_eq_none_iff.mp (by decide +kernel)

theorem example_sent_of_room :
    DomainName.parse "example.org" = .ok exampleName ∧
      (shortClient 46).requestUrl? "example.org" .txt =
        some (addressOf shortEndpoint "example.org" .txt) ∧
      (shortClient 45).requestUrl? "example.org" .txt = none := by
  have isName : DomainName.parse "example.org" = .ok exampleName :=
    DomainName.parse_text exampleName
  have length : shortEndpoint.text.utf8ByteSize + "example.org".utf8ByteSize +
      RecordType.txt.name.utf8ByteSize + 12 = 46 := by decide +kernel
  have wide := (name_sent_of_room (shortClient 46) shortEndpoint .txt "example.org" _ isName rfl
    parse_shortEndpoint (by decide +kernel)).1
  have narrow := (name_sent_of_room (shortClient 45) shortEndpoint .txt "example.org" _ isName rfl
    parse_shortEndpoint (by decide +kernel)).2
  rw [length] at wide narrow
  exact ⟨isName, (wide (Nat.le_refl 46)).1, (narrow rfl rfl (Nat.lt_succ_self 45)).1⟩

end Client

end Doh

end SenderAudit
