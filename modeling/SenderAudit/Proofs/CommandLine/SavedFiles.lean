import SenderAudit.Proofs.CommandLine.Outputs

/-!
What a run leaves where there was no file. A report that is saved is alone in the directory.
If saving fails after the temporary file has been created, that file stays.
-/
namespace SenderAudit.CommandLine

theorem output_saves (o : Options) (rows : List Row) (path text : String) (status : Nat)
    (saves : output o rows = .save path text status) :
    o.out = some path ∧ status = statusOf rows := by
  cases isFormat : Format.ofName? o.formatName with
  | none =>
      rw [output_unknown o rows isFormat] at saves
      cases saves
  | some format =>
      by_cases prints : o.out = none ∨ format = .human
      · rw [output_printed o rows format isFormat prints] at saves
        cases saves
      · obtain ⟨saved, out⟩ := Option.ne_none_iff_exists'.mp fun none => prints (Or.inl none)
        rw [output_saved o rows format saved isFormat out fun human => prints (Or.inr human)]
          at saves
        cases saves
        exact ⟨out, rfl⟩

section Run

variable (server : Doh.Server) (args : List String) (input : List UInt8) (o : Options)
  (path : String) (system : FileSystem) (d : Disk)
  (command : Command.ofArguments args = .check o)

include command

theorem run_saves (path text : String) (status : Nat)
    (saves : (run server args input).action = .save path text status) :
    o.out = some path ∧ ∃ rows, status = statusOf rows := by
  simp only [run, command, runChecks] at saves
  split at saves
  · cases saves
  · cases saves
  · obtain ⟨out, isStatus⟩ := output_saves o _ path text status saves
    exact ⟨out, _, isStatus⟩

theorem run_failed (out : o.out = some path) (empty : d.here = [])
    (fails : ((run server args input).result system d).status = 1) :
    ((run server args input).result system d).files.here = [] ∨
      system.create (temporaryPath path) = none ∧
        ∃ name left, system.locate (temporaryPath path) = .here name ∧
          ((run server args input).result system d).files.here = [(name, left)] := by
  rw [Run.result] at fails ⊢
  cases action : (run server args input).action with
  | print text status => exact Or.inl empty
  | fail report => exact Or.inl empty
  | misuse => exact Or.inl empty
  | save saved text status =>
      obtain ⟨sameOut, rows, rfl⟩ := run_saves server args input o command saved text status
        action
      obtain rfl : path = saved := Option.some.inj (out.symm.trans sameOut)
      rw [action] at fails
      obtain ⟨report, performed⟩ | ⟨created, report, left, performed⟩ | performed :=
        perform_cases system d path text (statusOf rows)
      · rw [performed]
        exact Or.inl empty
      · rw [performed]
        dsimp only
        rw [Disk.here_put d _ left empty]
        cases system.locate (temporaryPath path) with
        | away place => exact Or.inl rfl
        | here name => exact Or.inr ⟨created, name, left, rfl, rfl⟩
      · -- What is saved ends with the status of its rows, which is never 1.
        have known := statusOf_cases rows
        rw [performed] at fails
        dsimp only at fails
        omega

/-- What a run leaves in an empty directory, whatever the system answers. A run that fails
leaves at most the temporary file. With a report to save, it leaves nothing if that file
cannot be created, exactly that file with what was written if a later step fails, and
otherwise the whole report where its path leads, and no other file. -/
theorem run_leaves_files (out : o.out = some path) (empty : d.here = []) :
    let result := (run server args input).result system d
    let temporary := system.locate (temporaryPath path)
    (result.status = 1 → result.files.here = [] ∨
      system.create (temporaryPath path) = none ∧
        ∃ name left, temporary = .here name ∧ result.files.here = [(name, left)]) ∧
    ∀ domains format, allDomains? o input = some domains → domains ≠ [] →
      Format.ofName? o.formatName = some format → format ≠ .human →
      ∃ text, format.Shows (auditedRows server o domains) text ∧
        let contents := Utf8.encode text.toList
        (system.create (temporaryPath path) ≠ none → result.status = 1 ∧ result.files = d) ∧
        (system.create (temporaryPath path) = none → system.Interrupts path contents →
          result.status = 1 ∧ ∃ left, left <+: contents ∧
            (system.write temporary contents = none → left = contents) ∧
            result.files = d.put temporary left ∧
            result.files.here = Disk.here [⟨temporary, left⟩]) ∧
        (system.create (temporaryPath path) = none → ¬ system.Interrupts path contents →
          (result.status = 0 ∨ result.status = 2) ∧
            Holds result.files (system.locate path) text ∧
            result.files.here = Disk.here [⟨system.locate path, contents⟩]) := by
  refine ⟨run_failed server args input o path system d command out empty, ?_⟩
  intro domains format named nonempty isFormat machine
  refine ⟨_, format.shows_text _, ?_⟩
  rw [Run.result, run_action server args input o domains command named nonempty,
    output_saved o _ format path isFormat out machine]
  refine ⟨fun refused => ?_, fun created interrupted => ?_, fun created completed => ?_⟩
  · obtain ⟨report, performed⟩ := perform_uncreated system d path _ _ refused
    rw [performed]
    exact ⟨rfl, rfl⟩
  · obtain ⟨report, left, first, whole, performed⟩ :=
      perform_interrupted system d path _ _ created interrupted
    rw [performed]
    exact ⟨rfl, left, first, whole, rfl, Disk.here_put _ _ _ empty⟩
  · rw [perform_completed system d path _ _ created completed]
    exact ⟨statusOf_cases _, put_holds _ _ _,
      Disk.here_put _ _ _ (Disk.here_remove _ _ empty)⟩

end Run

def savingOptions (path : String) : Options where
  domains := ["a..b"]
  out := some path
  format := some "json"

def savingArguments (path : String) : List String :=
  ["a..b", "--format", "json", "--out", path]

/-- A flat directory on a disk that has room for three octets. -/
def fullDisk : FileSystem :=
  { FileSystem.flat .willing with
    write := fun _ _ => some (3, ⟨"No space left on device (os error 28)"⟩) }

theorem savingRuns_leave_files :
    let flat := FileSystem.flat .willing
    let saved := (run (fun _ => .lost) (savingArguments "./r.json") []).result flat []
    let astray := (run (fun _ => .lost) (savingArguments ".") []).result flat []
    let cut := (run (fun _ => .lost) (savingArguments "r.json") []).result fullDisk []
    (∃ text, Format.json.Shows (auditedRows (fun _ => .lost) (savingOptions "./r.json") ["a..b"])
      text ∧ saved.status = 2 ∧ saved.files.here = [("r.json", Utf8.encode text.toList)]) ∧
    (∃ text, Format.json.Shows (auditedRows (fun _ => .lost) (savingOptions ".") ["a..b"]) text ∧
      astray.status = 1 ∧ astray.files.here = [("..tmp", Utf8.encode text.toList)]) ∧
    cut.status = 1 ∧ ∃ left, cut.files.here = [("r.json.tmp", left)] := by
  intro flat saved astray cut
  refine ⟨?_, ?_, ?_⟩
  · obtain ⟨_, leaves⟩ := run_leaves_files (fun _ => .lost) (savingArguments "./r.json") []
      (savingOptions "./r.json") "./r.json" flat [] (by decide +kernel) rfl rfl
    obtain ⟨text, shown, _, _, completed⟩ := leaves ["a..b"] .json rfl (by decide)
      (by decide +kernel) (by decide)
    have smooth : ¬ flat.Interrupts "./r.json" (Utf8.encode text.toList) := by
      rintro (written | synced | renamed)
      · exact written rfl
      · exact synced rfl
      · exact renamed (by decide +kernel)
    have here : flat.locate "./r.json" = .here "r.json" := by decide +kernel
    obtain ⟨_, _, alone⟩ := completed (by decide +kernel) smooth
    rw [here] at alone
    exact ⟨text, shown, by decide +kernel, alone⟩
  · obtain ⟨_, leaves⟩ := run_leaves_files (fun _ => .lost) (savingArguments ".") []
      (savingOptions ".") "." flat [] (by decide +kernel) rfl rfl
    obtain ⟨text, shown, _, interrupted, _⟩ := leaves ["a..b"] .json rfl (by decide)
      (by decide +kernel) (by decide)
    have here : flat.locate (temporaryPath ".") = .here "..tmp" := by decide +kernel
    obtain ⟨status, left, _, whole, _, alone⟩ := interrupted (by decide +kernel)
      (Or.inr (Or.inr (by decide +kernel)))
    rw [whole rfl, here] at alone
    exact ⟨text, shown, status, alone⟩
  · obtain ⟨_, leaves⟩ := run_leaves_files (fun _ => .lost) (savingArguments "r.json") []
      (savingOptions "r.json") "r.json" fullDisk [] (by decide +kernel) rfl rfl
    obtain ⟨text, _, _, interrupted, _⟩ := leaves ["a..b"] .json rfl (by decide)
      (by decide +kernel) (by decide)
    have here : fullDisk.locate (temporaryPath "r.json") = .here "r.json.tmp" := by
      decide +kernel
    obtain ⟨status, left, _, _, _, alone⟩ := interrupted (by decide +kernel) (Or.inl nofun)
    rw [here] at alone
    exact ⟨status, left, alone⟩

theorem dotRun_leaves_temporary :
    let result := (run (fun _ => .lost) (savingArguments ".") []).result (.flat .willing) []
    result.status = 1 ∧ result.files.here.map (·.1) = ["..tmp"] := by
  decide +kernel

end SenderAudit.CommandLine
