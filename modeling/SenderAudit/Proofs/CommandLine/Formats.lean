import Mathlib.Data.List.Forall2
import SenderAudit.Proofs.CommandLine.Table
import SenderAudit.Proofs.Json.RoundTrip
import SenderAudit.Proofs.Text

/-!
What the formats say of the rows. An array holds the values of the rows, the lines hold the
same values one by one, and the table has a record for each row, whose cells agree with its
value.
-/
namespace SenderAudit

namespace Json

def get (key : String) : Json → Json
  | .object fields => (fields.lookup key).getD .null
  | _ => .null

def first : Json → Json
  | .array (value :: _) => value
  | _ => .null

/-- A text or a number without quotes, and nothing for what else a value can be. -/
def plain : Json → String
  | .text value => value
  | .number value => toString value
  | _ => ""

end Json

namespace CommandLine

def Row.Passes (row : Row) : Prop :=
  ∃ report, row.outcome = .ok report ∧ report.isFullyValid = true

theorem Row.isValid_iff (row : Row) : row.isValid = true ↔ row.Passes := by
  obtain ⟨input, outcome⟩ := row
  cases outcome with
  | error error => simp [isValid, Passes]
  | ok report => simp [isValid, Passes]

def cell? (record : List String) (column : String) : Option String :=
  (columns.zip record).lookup column

/-- Columns for values that have a place in the value of a row. Where there is no report, or
nothing in that place, the value is null. -/
def valueColumns : List (String × (Json → Json)) := [
  ("input", fun row => row.get "input"),
  ("total", fun row => ((row.get "report").get "score").get "total"),
  ("spf", fun row => ((row.get "report").get "score").get "spf"),
  ("dkim", fun row => ((row.get "report").get "score").get "dkim"),
  ("dmarc", fun row => ((row.get "report").get "score").get "dmarc"),
  ("spf_all", fun row => (((row.get "report").get "spf").get "allMechanisms").first),
  ("dmarc_policy", fun row => ((row.get "report").get "dmarc").get "policy")]

structure Row.RecordedAs (row : Row) (record : List String) : Prop where
  length : record.length = 10
  values : ∀ column ∈ valueColumns,
    cell? record column.1 = some (column.2 row.toJson).plain
  valid : cell? record "valid" = some "true" ∧ row.Passes ∨
    cell? record "valid" = some "false" ∧ ¬ row.Passes

theorem spfEnding_plain (o : Spf.Outcome) :
    (o.toJson.get "allMechanisms").first.plain = (o.effective.map (·.allTerm)).getD "" := by
  obtain ⟨_, _, _, _, effective, _, _, _, _, _⟩ := o
  cases effective with
  | none => rfl
  | some qualifier => rfl

theorem dmarcPolicy_plain (o : Dmarc.Outcome) :
    (o.toJson.get "policy").plain = (o.policy.map (·.word)).getD "" := by
  obtain ⟨_, _, _, policy, _, _, _, _, _, _, _, _⟩ := o
  cases policy with
  | none => rfl
  | some policy => rfl

theorem Row.cells_valid (row : Row) :
    cell? row.cells "valid" = some (if row.isValid then "true" else "false") := by
  obtain ⟨input, outcome⟩ := row
  cases outcome with
  | error error => rfl
  | ok report => rfl

theorem Row.cells_length (row : Row) : row.cells.length = 10 := by
  obtain ⟨input, outcome⟩ := row
  cases outcome with
  | error error => rfl
  | ok report => rfl

theorem Row.cells_values (row : Row) : ∀ column ∈ valueColumns,
    cell? row.cells column.1 = some (column.2 row.toJson).plain := by
  obtain ⟨input, outcome⟩ := row
  simp only [valueColumns, List.forall_mem_cons]
  cases outcome with
  | error error => exact ⟨rfl, rfl, rfl, rfl, rfl, rfl, rfl, fun _ member => by cases member⟩
  | ok report =>
      have ending := congrArg some (spfEnding_plain report.spf).symm
      have policy := congrArg some (dmarcPolicy_plain report.dmarc).symm
      exact ⟨rfl, rfl, rfl, rfl, rfl, ending, policy, fun _ member => by cases member⟩

theorem Row.recordedAs_cells (row : Row) : row.RecordedAs row.cells := by
  refine ⟨row.cells_length, row.cells_values, ?_⟩
  rw [row.cells_valid]
  by_cases passes : row.isValid = true
  · exact Or.inl ⟨congrArg some (if_pos passes), row.isValid_iff.mp passes⟩
  · exact Or.inr ⟨congrArg some (if_neg passes), mt row.isValid_iff.mpr passes⟩

/-- What a text in a format says of the rows. -/
def Format.Shows (rows : List Row) (text : String) : Format → Prop
  | .human => text = String.join (rows.map (·.humanText))
  | .json => Json.parse? text = some (.array (rows.map (·.toJson)))
  | .ndjson => ∃ written, Text.fields '\n' text.toList = written ++ [[]] ∧
      written.map (fun s => Json.parse? (String.ofList s)) = rows.map fun row => some row.toJson
  | .csv => ∃ records, table? text = some (columns :: records) ∧
      List.Forall₂ Row.RecordedAs rows records

theorem fields_lines (texts : List String) (oneLine : ∀ s ∈ texts, Json.OneLine s) :
    Text.fields '\n' (lines texts).toList = texts.map String.toList ++ [[]] := by
  induction texts with
  | nil => rfl
  | cons s others ih =>
      have first : (lines (s :: others)).toList = s.toList ++ '\n' :: (lines others).toList := by
        simp only [lines, List.map_cons, String.toList_join, List.flatMap_cons, line,
          String.toList_append, List.append_assoc]
        rfl
      have whole := Text.splitWhere_whole (· == '\n') s.toList fun c member => by
        apply beq_eq_false_iff_ne.mpr
        rintro rfl
        exact oneLine s List.mem_cons_self member
      have later := ih fun t member => oneLine t (List.mem_cons_of_mem _ member)
      rw [Text.fields] at later ⊢
      rw [first, Text.splitWhere_append _ _ _ _ rfl, whole, later]
      rfl

theorem parse?_whole (layout : Json.Layout) (value : Json) :
    Json.parse? (value.write layout 0) = some value := by
  have read := Json.parse?_write layout 0 value "" fun c member => by cases member
  rwa [String.append_empty] at read

theorem Format.shows_text (rows : List Row) (format : Format) :
    format.Shows rows (format.text rows) := by
  cases format with
  | human => rfl
  | json => exact parse?_whole .indented _
  | ndjson =>
      have oneLine : ∀ s ∈ rows.map fun row => row.toJson.compact, Json.OneLine s := by
        intro s member
        obtain ⟨row, _, rfl⟩ := List.mem_map.mp member
        exact Json.oneLine_write 0 row.toJson
      have read : ∀ row : Row, Json.parse? row.toJson.compact = some row.toJson :=
        fun row => parse?_whole .compact row.toJson
      refine ⟨_, fields_lines _ oneLine, ?_⟩
      simp only [List.map_map, Function.comp_def, String.ofList_toList, read]
  | csv =>
      have nonempty : ∀ cells ∈ columns :: rows.map Row.cells, cells ≠ [] := by
        intro cells member
        rcases List.mem_cons.mp member with rfl | inRows
        · decide
        · obtain ⟨row, _, rfl⟩ := List.mem_map.mp inRows
          exact List.ne_nil_of_length_pos (row.cells_length ▸ by decide)
      have agree : List.Forall₂ (fun row other : Row => row.RecordedAs other.cells) rows rows :=
        List.forall₂_same.mpr fun row _ => row.recordedAs_cells
      exact ⟨rows.map Row.cells, table?_lines _ nonempty, List.forall₂_map_right_iff.mpr agree⟩

theorem Format.shows_printed (rows : List Row) (format : Format) :
    format.Shows rows (format.printed rows) := by
  cases format with
  | json =>
      exact Json.parse?_write .indented 0 _ "\n" fun c member =>
        Or.inr (List.mem_singleton.mp member)
  | human => exact shows_text rows .human
  | ndjson => exact shows_text rows .ndjson
  | csv => exact shows_text rows .csv

def Format.ending : Format → String
  | .json => "\n"
  | _ => ""

theorem Format.printed_eq (rows : List Row) (format : Format) :
    format.printed rows = format.text rows ++ format.ending := by
  cases format with
  | json => rfl
  | human => exact String.append_empty.symm
  | ndjson => exact String.append_empty.symm
  | csv => exact String.append_empty.symm

end CommandLine

end SenderAudit
