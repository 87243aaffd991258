import SenderAudit.Reporting.Encoding

/-!
The rows of the output, one for each domain, and their four formats. A row holds a report
or says why there is none.
-/
namespace SenderAudit.CommandLine

structure Row where
  input : String
  outcome : Except AuditError Report

def Row.isValid (row : Row) : Bool :=
  match row.outcome with
  | .ok report => report.isFullyValid
  | .error _ => false

inductive Format where
  | human
  | json
  | ndjson
  | csv
  deriving DecidableEq, Repr

namespace Format

def name : Format → String
  | .human => "human"
  | .json => "json"
  | .ndjson => "ndjson"
  | .csv => "csv"

def all : List Format := [.human, .json, .ndjson, .csv]

def ofName? (s : String) : Option Format :=
  all.find? (·.name == s)

end Format

def line (s : String) : String :=
  s ++ "\n"

def lines (texts : List String) : String :=
  String.join (texts.map line)

/-! For people. -/

def warningLines (warnings : List String) : List String :=
  warnings.map fun warning => s!"  warning: {warning}"

def spfLines (o : Spf.Outcome) : List String :=
  let ending := (o.effective.map (·.allTerm)).getD "no all"
  let verdict :=
    if o.valid then s!"spf: valid {ending} ({o.lookups} lookups)"
    else "spf: invalid: " ++ Text.joined "; " o.errors
  verdict :: warningLines o.notes

def dkimLine (r : Report) : String :=
  match r.dkimMatch? with
  | some o =>
      let type := o.keyType.getD "?"
      let bits := (o.keyBits.map toString).getD "?"
      let testing := if o.testing then ", testing" else ""
      s!"dkim: {o.selector} ({type} {bits} bits{testing})"
  | none => "dkim: none of " ++ Text.joined ", " (r.dkim.map (·.selector))

def dmarcLines (o : Dmarc.Outcome) : List String :=
  let verdict := match o.policy, o.valid with
    | some policy, true =>
        s!"dmarc: p={policy.word} rua={o.rua.length} ruf={o.ruf.length}"
    | _, _ => "dmarc: invalid: " ++ (o.problem.map (·.message)).getD "unknown"
  verdict :: warningLines (o.warnings.map (·.message))

def adviceLine (e : Scorecard.Evidence) (c : Scorecard.Category) : String :=
  s!"{c.name}: {e.reason c} -> {e.recommendation c}"

def reportLines (r : Report) : List String :=
  spfLines r.spf ++ dkimLine r :: dmarcLines r.dmarc ++
    Scorecard.Category.all.map (adviceLine r.evidence)

def Row.humanText (row : Row) : String :=
  match row.outcome with
  | .error error => line s!"[ERROR]   {row.input} :: {error.message}"
  | .ok report =>
      let verdict := if row.isValid then "[OK]     " else "[INVALID]"
      let points (c : Scorecard.Category) := s!"{c.name} {report.evidence.score c}"
      let score := Text.joined ", " (Scorecard.Category.all.map points)
      line s!"{verdict} {report.domain} score={report.evidence.total} ({score})" ++
        lines ((reportLines report).map fun s => "        " ++ s)

/-! As JSON. -/

def Row.toJson (row : Row) : Json :=
  match row.outcome with
  | .ok report => .object [("input", .text row.input), ("report", report.toJson)]
  | .error error => .object [("input", .text row.input), ("error", .text error.message)]

/-! As a table. -/

def columns : List String :=
  ["input", "valid", "total", "spf", "dkim", "dmarc", "spf_all", "dkim_selectors",
    "dmarc_policy", "error"]

/-- What is wrong in a report: in the policy, then with each selector, then in the policy
for failing mail. -/
def reportErrors (r : Report) : List String :=
  r.spf.errors ++ r.dkim.filterMap (fun o => o.problem.map (·.message)) ++
    (r.dmarc.problem.map (·.message)).toList

def Row.cells (row : Row) : List String :=
  let valid := if row.isValid then "true" else "false"
  match row.outcome with
  | .error error => [row.input, valid] ++ List.replicate 7 "" ++ [error.message]
  | .ok r =>
      let score (c : Scorecard.Category) := toString (r.evidence.score c)
      [row.input, valid, toString r.evidence.total, score .spf, score .dkim, score .dmarc,
        (r.spf.effective.map (·.allTerm)).getD "",
        Text.joined "|" ((r.dkim.filter (·.valid)).map (·.selector)),
        (r.dmarc.policy.map (·.word)).getD "",
        Text.joined "|" (reportErrors r)]

def needsQuotes (s : List Char) : Bool :=
  s.any fun c => c == ',' || c == '"' || c == '\n' || c == '\r'

def cellText (cell : String) : String :=
  let s := cell.toList
  if needsQuotes s then
    "\"" ++ String.ofList (s.flatMap fun c => if c == '"' then ['"', '"'] else [c]) ++ "\""
  else cell

def tableLine (cells : List String) : String :=
  line (Text.joined "," (cells.map cellText))

def Format.text (rows : List Row) : Format → String
  | .human => String.join (rows.map (·.humanText))
  | .json => (Json.array (rows.map (·.toJson))).indented
  | .ndjson => lines (rows.map (·.toJson.compact))
  | .csv => String.join ((columns :: rows.map (·.cells)).map tableLine)

/-- The output as it is printed; in a file, an array has no line end after it. -/
def Format.printed (rows : List Row) (format : Format) : String :=
  match format with
  | .json => line (format.text rows)
  | _ => format.text rows

end SenderAudit.CommandLine
