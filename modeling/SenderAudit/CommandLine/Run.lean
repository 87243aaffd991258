import SenderAudit.CommandLine.Options
import SenderAudit.CommandLine.Rows
import SenderAudit.CommandLine.Saving

/-!
Runs of the command line. A run is worked out before anything is written: it prints a text,
or saves one to a file, or fails. The exit status is 0 if every domain is fully valid, 2 if
one is not or the arguments make no sense, and 1 if the run fails.
-/
namespace SenderAudit.CommandLine

def programName : String := "mailauth-cli"
def programVersion : String := "0.1.0"

def helpLines : List String := [
  "Audit SPF, DKIM and DMARC records",
  "",
  s!"Usage: {programName} [OPTIONS] [DOMAINS]...",
  "",
  "Arguments:",
  "  [DOMAINS]...  domains to check",
  "",
  "Options:",
  "      --stdin                           read domains from stdin (one per line, '#' starts a comment)",
  "      --out <OUT>                       write report to file (JSON/NDJSON/CSV depending on --format)",
  "      --format <FORMAT>                 format: human|json|ndjson|csv [default: human]",
  "      --dkim-selector <DKIM_SELECTORS>  DKIM selector to check (repeatable, replaces the built-in list)",
  "      --doh-endpoint <DOH_ENDPOINT>     DNS-over-HTTPS JSON endpoint [default: https://cloudflare-dns.com/dns-query]",
  "      --timeout-ms <TIMEOUT_MS>         per-query timeout (ms) [default: 5000]",
  "  -h, --help                            Print help",
  "  -V, --version                         Print version"]

def helpText : String :=
  lines helpLines

inductive Action where
  | print (text : String) (status : Nat)
  | save (path contents : String) (status : Nat)
  | fail (report : String)
  | misuse
  deriving DecidableEq, Repr

/-- An action and the addresses that were queried before it, in order. -/
structure Run where
  action : Action
  requests : List Url

/-- How a failure is reported: on a line, with its cause after an empty one. -/
def failureReport (message : String) (cause : Option String) : String :=
  let because := match cause with
    | none => ""
    | some text => lines ["", "Caused by:", "    " ++ text]
  line s!"Error: {message}" ++ because

def badInput : String :=
  failureReport "read stdin" (some "stream did not contain valid UTF-8")

def badFormat (name : String) : String :=
  failureReport s!"unknown --format '{name}', use: human|json|ndjson|csv" none

/-- The domains to check: those among the arguments, then those of the input. -/
def allDomains? (o : Options) (input : List UInt8) : Option (List String) :=
  if o.stdin then (Utf8.decode? input).map fun text => o.domains ++ domainLines text
  else some o.domains

def check (server : Doh.Server) (o : Options) (domain : String) : Row × List Url :=
  let client := o.client
  match audit (client.resolver server) domain o.auditOptions with
  | .error error => (⟨domain, .error error⟩, [])
  | .ok (report, names) =>
      (⟨domain, .ok report⟩, names.filterMap fun name => client.requestUrl? name.text .txt)

def output (o : Options) (rows : List Row) : Action :=
  let status := if rows.all (·.isValid) then 0 else 2
  match Format.ofName? o.formatName, o.out with
  | none, _ => .fail (badFormat o.formatName)
  | some .human, _ => .print (Format.printed rows .human) status
  | some format, none => .print (format.printed rows) status
  | some format, some path => .save path (format.text rows) status

/-- Checks the domains that the options name. Without any, help is printed. -/
def runChecks (server : Doh.Server) (o : Options) (input : List UInt8) : Run :=
  match allDomains? o input with
  | none => ⟨.fail badInput, []⟩
  | some [] => ⟨.print (line helpText) 0, []⟩
  | some (domain :: others) =>
      let checks := (domain :: others).map (check server o)
      ⟨output o (checks.map (·.1)), checks.flatMap (·.2)⟩

def run (server : Doh.Server) (args : List String) (input : List UInt8) : Run :=
  match Command.ofArguments args with
  | .check o => runChecks server o input
  | .help => ⟨.print helpText 0, []⟩
  | .version => ⟨.print (line s!"{programName} {programVersion}") 0, []⟩
  | .misuse => ⟨.misuse, []⟩

def readsInput (args : List String) : Bool :=
  match Command.ofArguments args with
  | .check o => o.stdin
  | _ => false

structure Result where
  status : Nat
  printed : String := ""
  report : String := ""
  files : Disk
  deriving DecidableEq, Repr

def SaveFailure.report (failure : SaveFailure) : String :=
  match failure.step with
  | none => failureReport failure.cause.message none
  | some step => failureReport step failure.cause.message

def Action.perform (system : FileSystem) (d : Disk) : Action → Result
  | .print text status => { status, printed := text, files := d }
  | .fail report => { status := 1, report, files := d }
  | .misuse => { status := 2, files := d }
  | .save path contents status =>
      match ((CommandLine.save system.steps path (Utf8.encode contents.toList)).run.run d).run with
      | (.ok (), files) => { status, files }
      | (.error failure, files) => { status := 1, report := failure.report, files }

end SenderAudit.CommandLine
