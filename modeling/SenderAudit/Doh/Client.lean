import SenderAudit.Doh.Reply
import SenderAudit.Lookup.Mx
import SenderAudit.Lookup.Resolver
import SenderAudit.Lookup.Txt
import SenderAudit.Url.Address

/-!
Lookups over the web. A query names what it asks for in parameters added to the address of
a server, and is not sent if its name or its address is too long. What comes of sending it
is given as a function from addresses to exchanges.
-/
namespace SenderAudit.Doh

/-- What comes of a request: the connection is lost, or nothing comes in any time, or a
response whose body is cut short, or a complete one. -/
inductive Exchange where
  | lost
  | silent
  | cutShort (status : Nat)
  | complete (status : Nat) (body : List UInt8)
  deriving DecidableEq, Repr

abbrev Server := Url → Exchange

structure Client where
  endpoint : String := "https://cloudflare-dns.com/dns-query"
  timeoutMs : Nat := 5000
  maxUrlLength : Nat := 2048
  deriving DecidableEq, Repr

def mediaType : String := "application/dns-json"

def maxExcerptLength : Nat := 512

def excerpt (body : List UInt8) : String :=
  String.ofList ((Text.trim (Utf8.decodeLossy body)).take maxExcerptLength)

def isSuccess (status : Nat) : Bool :=
  200 ≤ status && status < 300

namespace Client

def queryUrl (c : Client) (name : String) (type : RecordType) : Except QueryFault Url :=
  let length := Utf8.length name.toList
  if length = 0 then .error (.name .empty)
  else if length > DomainName.maxLength then .error (.name (.tooLong length))
  else match Url.parse c.endpoint with
    | .error fault => .error (.endpoint fault.message)
    | .ok endpoint =>
        let url := (endpoint.withParameter "name" name).withParameter "type" type.name
        if url.characters.length > c.maxUrlLength then
          .error (.longUrl url.characters.length c.maxUrlLength)
        else .ok url

/-- Why there is no response. The address is told without credentials. -/
def lossReason (url : Url) : String :=
  let url := url.withoutCredentials
  if url.isWeb then s!"error sending request for url ({url.text})"
  else s!"builder error for url ({url.text})"

def readResponse (name : String) (status : Nat) (body : List UInt8) :
    Except LookupFailure Reply :=
  if isSuccess status then
    match Reply.read? body with
    | some reply => .ok reply
    -- The reader of JSON words the fault. That reader is a library and its texts are not
    -- modeled, so `malformed body` stands for any of them.
    | none => .error (.transport name (some status) "invalid DoH response: malformed body")
  else .error (.transport name (some status) (excerpt body))

def readExchange (c : Client) (name : String) (type : RecordType) (url : Url) :
    Exchange → Except LookupFailure Reply
  | .lost => .error (.transport name none (lossReason url))
  | .silent => .error (.timeout name type c.timeoutMs)
  | .cutShort status => .error (.transport name (some status) "error decoding response body")
  | .complete status body => readResponse name status body

def readReply (name : String) (type : RecordType) (reply : Reply) :
    Except LookupFailure (List String) :=
  if reply.status = 0 then
    .ok ((reply.answers.filter (·.type = type.code)).map (·.data))
  else if reply.status = 3 then .error (.nameNotFound name)
  else .error (.resolution name type reply.status)

/-- Sends a query, unless its address is one that cannot be sent to. -/
def exchange (server : Server) (url : Url) : Exchange :=
  if url.isWeb then server url else .lost

def resolve (c : Client) (server : Server) (name : String) (type : RecordType) :
    Except LookupFailure (List String) := do
  let name := Text.trimmed name
  let url ← (c.queryUrl name type).mapError (.invalidInput name)
  let reply ← c.readExchange name type url (exchange server url)
  readReply name type reply

def texts (c : Client) (server : Server) (name : String) : Except LookupFailure (List String) :=
  (c.resolve server name .txt).map (·.map Txt.reconstruct)

def exchangers (c : Client) (server : Server) (name : String) : List MailExchanger :=
  match c.resolve server name .mx with
  | .ok answers => MailExchanger.collect answers
  | .error _ => []

def canonicalNames (c : Client) (server : Server) (name : String) : List String :=
  match c.resolve server name .cname with
  | .ok answers =>
      ((answers.map fun answer => MailExchanger.hostName answer.toList).filter (!·.isEmpty)).map
        String.ofList
  | .error _ => []

def requestUrl? (c : Client) (name : String) (type : RecordType) : Option Url :=
  match c.queryUrl (Text.trimmed name) type with
  | .ok url => if url.isWeb then some url else none
  | .error _ => none

/-- How long a lookup takes: no time, or all the time there is if nothing comes. -/
def delayMs (c : Client) (server : Server) (name : String) (type : RecordType) : Nat :=
  match c.requestUrl? name type with
  | some url => if server url = .silent then c.timeoutMs else 0
  | none => 0

def resolver (c : Client) (server : Server) : Resolver := fun name =>
  { texts := c.texts server name.text, delayMs := c.delayMs server name.text .txt }

end Client

end SenderAudit.Doh
