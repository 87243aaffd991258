import SenderAudit.CommandLine.Run
import SenderAudit.Proofs.CommandLine.Formats
import SenderAudit.Proofs.CommandLine.Saving

/-!
Runs that check domains. The exit status tells whether all rows pass, and the text that is
printed or saved shows the rows, in the order of the domains.
-/
namespace SenderAudit.CommandLine

def Run.result (r : Run) (system : FileSystem) (d : Disk) : Result :=
  r.action.perform system d

def inputDomains (o : Options) (input : List UInt8) : List String :=
  if o.stdin then ((Utf8.decode? input).map domainLines).getD [] else []

def auditedRows (server : Doh.Server) (o : Options) (domains : List String) : List Row :=
  domains.map fun domain =>
    ⟨domain, (audit (o.client.resolver server) domain o.auditOptions).map Prod.fst⟩

def statusOf (rows : List Row) : Nat :=
  if rows.all (·.isValid) then 0 else 2

/-- There is one file at a location, with this text. -/
def Holds (d : Disk) (location : Location) (text : String) : Prop :=
  d.filter (·.location == location) = [⟨location, Utf8.encode text.toList⟩]

theorem allDomains?_eq (o : Options) (input : List UInt8) (domains : List String)
    (named : allDomains? o input = some domains) : domains = o.domains ++ inputDomains o input := by
  unfold allDomains? at named
  unfold inputDomains
  split at named
  · next stdin =>
      obtain ⟨text, decoded, rfl⟩ := Option.map_eq_some_iff.mp named
      rw [if_pos stdin, decoded]
      rfl
  · next noStdin =>
      rw [if_neg noStdin, List.append_nil]
      exact (Option.some.inj named).symm

theorem check_row (server : Doh.Server) (o : Options) (domain : String) :
    (check server o domain).1 =
      ⟨domain, (audit (o.client.resolver server) domain o.auditOptions).map Prod.fst⟩ := by
  simp only [check]
  cases audit (o.client.resolver server) domain o.auditOptions with
  | error error => rfl
  | ok found => rfl

theorem run_action (server : Doh.Server) (args : List String) (input : List UInt8) (o : Options)
    (domains : List String) (command : Command.ofArguments args = .check o)
    (named : allDomains? o input = some domains) (nonempty : domains ≠ []) :
    (run server args input).action = output o (auditedRows server o domains) := by
  obtain ⟨domain, others, rfl⟩ := List.exists_cons_of_ne_nil nonempty
  simp only [run, command, runChecks, named, List.map_map]
  rw [auditedRows]
  congr 1
  exact List.map_congr_left fun domain _ => check_row server o domain

theorem statusOf_eq_zero_iff (rows : List Row) :
    statusOf rows = 0 ↔ ∀ row ∈ rows, row.Passes := by
  simp only [statusOf, ← Row.isValid_iff, ← List.all_eq_true]
  split <;> simp_all

theorem statusOf_cases (rows : List Row) : statusOf rows = 0 ∨ statusOf rows = 2 := by
  unfold statusOf
  split
  · exact Or.inl rfl
  · exact Or.inr rfl

/-! What the rows are put out as: a failure, a text to print, or one to save. -/

theorem output_unknown (o : Options) (rows : List Row)
    (unknown : Format.ofName? o.formatName = none) :
    output o rows = .fail (badFormat o.formatName) := by
  rw [output, unknown]

theorem output_printed (o : Options) (rows : List Row) (format : Format)
    (isFormat : Format.ofName? o.formatName = some format)
    (prints : o.out = none ∨ format = .human) :
    output o rows = .print (format.printed rows) (statusOf rows) := by
  rw [output, isFormat]
  rcases prints with out | rfl
  · rw [out]
    cases format <;> rfl
  · rfl

theorem output_saved (o : Options) (rows : List Row) (format : Format) (path : String)
    (isFormat : Format.ofName? o.formatName = some format) (out : o.out = some path)
    (machine : format ≠ .human) :
    output o rows = .save path (format.text rows) (statusOf rows) := by
  rw [output, isFormat, out]
  cases format with
  | human => exact absurd rfl machine
  | json => rfl
  | ndjson => rfl
  | csv => rfl

theorem put_holds (d : Disk) (location : Location) (text : String) :
    Holds (d.put location (Utf8.encode text.toList)) location text := by
  have others : (d.remove location).filter (·.location == location) = [] := by
    apply List.filter_eq_nil_iff.mpr
    intro file member
    simpa using (List.mem_filter.mp member).2
  rw [Holds, Disk.put, List.filter_append, others]
  simp

section Save

variable (system : FileSystem) (d : Disk) (path text : String) (status : Nat)

theorem perform_uncreated (refused : system.create (temporaryPath path) ≠ none) :
    ∃ report, (Action.save path text status).perform system d =
      { status := 1, report, files := d } := by
  obtain ⟨failure, failed⟩ := system.save_uncreated d path (Utf8.encode text.toList) refused
  refine ⟨failure.report, ?_⟩
  rw [Action.perform, failed]
  rfl

variable (created : system.create (temporaryPath path) = none)

include created

theorem perform_interrupted (interrupted : system.Interrupts path (Utf8.encode text.toList)) :
    ∃ report left, left <+: Utf8.encode text.toList ∧
      (system.write (system.locate (temporaryPath path)) (Utf8.encode text.toList) = none →
        left = Utf8.encode text.toList) ∧
      (Action.save path text status).perform system d =
        { status := 1, report, files := d.put (system.locate (temporaryPath path)) left } := by
  obtain ⟨failure, left, first, whole, failed⟩ :=
    system.save_interrupted d path _ created interrupted
  refine ⟨failure.report, left, first, whole, ?_⟩
  rw [Action.perform, failed]
  rfl

theorem perform_completed (completed : ¬ system.Interrupts path (Utf8.encode text.toList)) :
    (Action.save path text status).perform system d =
      { status, files := (d.remove (system.locate (temporaryPath path))).put
          (system.locate path) (Utf8.encode text.toList) } := by
  rw [Action.perform, system.save_completed d path _ created completed]
  rfl

end Save

/-- Saving changes nothing, or leaves the temporary file, or comes to its end. -/
theorem perform_cases (system : FileSystem) (d : Disk) (path text : String) (status : Nat) :
    (∃ report, (Action.save path text status).perform system d =
      { status := 1, report, files := d }) ∨
    (system.create (temporaryPath path) = none ∧ ∃ report left,
      (Action.save path text status).perform system d =
        { status := 1, report, files := d.put (system.locate (temporaryPath path)) left }) ∨
    (Action.save path text status).perform system d =
      { status, files := (d.remove (system.locate (temporaryPath path))).put
          (system.locate path) (Utf8.encode text.toList) } := by
  by_cases created : system.create (temporaryPath path) = none
  · by_cases interrupted : system.Interrupts path (Utf8.encode text.toList)
    · obtain ⟨report, left, _, _, performed⟩ :=
        perform_interrupted system d path text status created interrupted
      exact Or.inr (Or.inl ⟨created, report, left, performed⟩)
    · exact Or.inr (Or.inr (perform_completed system d path text status created interrupted))
  · exact Or.inl (perform_uncreated system d path text status created)

theorem perform_save (system : FileSystem) (d : Disk) (path text : String) (status : Nat)
    (succeeds : ((Action.save path text status).perform system d).status ≠ 1) :
    ∃ files, Holds files (system.locate path) text ∧
      (Action.save path text status).perform system d = { status, files } := by
  obtain ⟨report, performed⟩ | ⟨_, report, left, performed⟩ | performed :=
    perform_cases system d path text status
  · rw [performed] at succeeds
    exact absurd rfl succeeds
  · rw [performed] at succeeds
    exact absurd rfl succeeds
  · exact ⟨_, put_holds _ _ text, performed⟩

section Checks

variable (server : Doh.Server) (args : List String) (input : List UInt8) (o : Options)
  (domains : List String) (system : FileSystem) (d : Disk)

theorem run_printed (format : Format) (isFormat : Format.ofName? o.formatName = some format)
    (prints : o.out = none ∨ format = .human)
    (command : Command.ofArguments args = .check o)
    (named : allDomains? o input = some domains) (nonempty : domains ≠ []) :
    (run server args input).result system d =
      { status := statusOf (auditedRows server o domains)
        printed := format.text (auditedRows server o domains) ++ format.ending
        files := d } := by
  rw [Run.result, run_action server args input o domains command named nonempty,
    output_printed o _ format isFormat prints, ← format.printed_eq]
  rfl

theorem run_saved (format : Format) (path : String)
    (isFormat : Format.ofName? o.formatName = some format) (out : o.out = some path)
    (machine : format ≠ .human) (command : Command.ofArguments args = .check o)
    (named : allDomains? o input = some domains) (nonempty : domains ≠ [])
    (succeeds : ((run server args input).result system d).status ≠ 1) :
    ∃ files, Holds files (system.locate path) (format.text (auditedRows server o domains)) ∧
      (run server args input).result system d =
        { status := statusOf (auditedRows server o domains), files } := by
  rw [Run.result, run_action server args input o domains command named nonempty,
    output_saved o _ format path isFormat out machine] at succeeds ⊢
  exact perform_save system d path _ _ succeeds

theorem run_format (command : Command.ofArguments args = .check o)
    (named : allDomains? o input = some domains) (nonempty : domains ≠ [])
    (succeeds : ((run server args input).result system d).status ≠ 1) :
    ∃ format, Format.ofName? o.formatName = some format := by
  cases isFormat : Format.ofName? o.formatName with
  | some format => exact ⟨format, rfl⟩
  | none =>
      rw [Run.result, run_action server args input o domains command named nonempty,
        output_unknown o _ isFormat] at succeeds
      exact absurd rfl succeeds

theorem run_status (command : Command.ofArguments args = .check o)
    (named : allDomains? o input = some domains) (nonempty : domains ≠ [])
    (succeeds : ((run server args input).result system d).status ≠ 1) :
    ((run server args input).result system d).status = statusOf (auditedRows server o domains) := by
  obtain ⟨format, isFormat⟩ := run_format server args input o domains system d command named
    nonempty succeeds
  by_cases prints : o.out = none ∨ format = .human
  · rw [run_printed server args input o domains system d format isFormat prints command named
      nonempty]
  · obtain ⟨path, out⟩ := Option.ne_none_iff_exists'.mp fun none => prints (Or.inl none)
    obtain ⟨files, _, result⟩ := run_saved server args input o domains system d format path
      isFormat out (fun human => prints (Or.inr human)) command named nonempty succeeds
    rw [result]

/-- How a run of checks ends and what it puts out. Where there is a file to save, it holds
what is printed without it, but for a last line end after an array. -/
theorem run_shows_rows (command : Command.ofArguments args = .check o)
    (named : allDomains? o input = some domains) (nonempty : domains ≠ [])
    (succeeds : ((run server args input).result system d).status ≠ 1) :
    domains = o.domains ++ inputDomains o input ∧
    (((run server args input).result system d).status = 0 ↔
      ∀ row ∈ auditedRows server o domains, row.Passes) ∧
    (((run server args input).result system d).status = 0 ∨
      ((run server args input).result system d).status = 2) ∧
    ∃ format text, Format.ofName? o.formatName = some format ∧
      format.Shows (auditedRows server o domains) text ∧
      format.Shows (auditedRows server o domains) (text ++ format.ending) ∧
      (o.out = none ∨ format = .human →
        ((run server args input).result system d).printed = text ++ format.ending) ∧
      (∀ path, o.out = some path → format ≠ .human →
        (run server args input).action =
          .save path text ((run server args input).result system d).status ∧
        ((run server args input).result system d).printed = "" ∧
        Holds ((run server args input).result system d).files (system.locate path) text) ∧
      ∀ unsaved system' d', Command.ofArguments unsaved = .check { o with out := none } →
        ((run server unsaved input).result system' d').printed = text ++ format.ending ∧
        ((run server unsaved input).result system' d').status =
          ((run server args input).result system d).status := by
  have status := run_status server args input o domains system d command named nonempty succeeds
  obtain ⟨format, isFormat⟩ := run_format server args input o domains system d command named
    nonempty succeeds
  have shown := format.shows_printed (auditedRows server o domains)
  rw [format.printed_eq] at shown
  refine ⟨allDomains?_eq o input domains named, ?_, ?_, format, _, isFormat,
    format.shows_text _, shown, ?_, ?_, ?_⟩
  · rw [status, statusOf_eq_zero_iff]
  · rw [status]
    exact statusOf_cases _
  · intro prints
    rw [run_printed server args input o domains system d format isFormat prints command named
      nonempty]
  · intro path out machine
    obtain ⟨files, holds, result⟩ := run_saved server args input o domains system d format path
      isFormat out machine command named nonempty succeeds
    rw [result, run_action server args input o domains command named nonempty]
    exact ⟨output_saved o _ format path isFormat out machine, rfl, holds⟩
  · intro unsaved system' d' command'
    have printed := run_printed server unsaved input { o with out := none } domains system' d'
      format isFormat (Or.inl rfl) command' named nonempty
    rw [printed, status]
    exact ⟨rfl, rfl⟩

end Checks

def tableOptions : Options where
  domains := ["a..b"]
  stdin := true
  out := some "./r.csv"
  format := some "csv"

def tableArguments : List String :=
  ["a..b", "--format=csv", "--stdin", "--out", "./r.csv"]

def quotedInput : List UInt8 :=
  Utf8.encode "# names\n x,\"y\" \n".toList

theorem quotedInput_shown :
    let system := FileSystem.flat .willing
    let old : Disk := [⟨.here "r.csv", Utf8.encode "old".toList⟩]
    let result := (run (fun _ => .lost) tableArguments quotedInput).result system old
    let printed := (run (fun _ => .lost) ["--stdin", "--format", "csv", "a..b"]
      quotedInput).result system []
    let rows := auditedRows (fun _ => .lost) tableOptions ["a..b", "x,\"y\""]
    result.status = 2 ∧ ¬ (∀ row ∈ rows, row.Passes) ∧
      ∃ text, Format.csv.Shows rows text ∧ Holds result.files (.here "r.csv") text ∧
        printed.printed = text ∧ printed.status = 2 := by
  intro system old result printed rows
  have named : allDomains? tableOptions quotedInput = some ["a..b", "x,\"y\""] := by
    decide +kernel
  have status : result.status = 2 := by
    decide +kernel
  have here : system.locate "./r.csv" = .here "r.csv" := by
    decide +kernel
  obtain ⟨_, passes, _, format, text, isFormat, shows, _, _, saved, prints⟩ :=
    run_shows_rows (fun _ => .lost) tableArguments quotedInput tableOptions _ system old
      (by decide +kernel) named (List.cons_ne_nil _ _) (by rw [status]; decide)
  cases isFormat
  obtain ⟨_, _, file⟩ := saved "./r.csv" rfl (by decide)
  obtain ⟨printedText, sameStatus⟩ := prints ["--stdin", "--format", "csv", "a..b"] system []
    (by decide +kernel)
  rw [status] at passes sameStatus
  refine ⟨status, mt passes.mpr (by decide), text, shows, here ▸ file, ?_, sameStatus⟩
  rw [printedText]
  exact String.append_empty

end SenderAudit.CommandLine
