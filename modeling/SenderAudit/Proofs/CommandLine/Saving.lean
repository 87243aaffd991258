import SenderAudit.CommandLine.Saving

/-!
What saving leaves, step by step. Where the temporary file cannot be created nothing changes,
and where a later step fails it stays. A file that is saved is where its path leads.
-/
namespace SenderAudit.CommandLine

namespace Disk

variable (d : Disk) (source target : Location) (contents others : List UInt8)

theorem remove_put : (d.put source contents).remove source = d.remove source := by
  simp [put, remove, List.filter_filter]

theorem put_put : (d.put source others).put source contents = d.put source contents := by
  rw [put, remove_put, ← put]

theorem put_move : (d.put source contents).move source target =
    (d.remove source).put target contents := by
  have others : (d.remove source).find? (·.location == source) = none := by
    apply List.find?_eq_none.mpr
    intro file member
    simpa using (List.mem_filter.mp member).2
  have found : (d.put source contents).find? (·.location == source) =
      some ⟨source, contents⟩ := by
    rw [put, List.find?_append, others]
    simp
  rw [move, found, remove_put]

theorem here_remove (empty : d.here = []) : (d.remove source).here = [] := by
  rw [here, List.filterMap_eq_nil_iff] at empty ⊢
  exact fun file member => empty file (List.mem_filter.mp member).1

theorem here_put (empty : d.here = []) :
    (d.put source contents).here = here [⟨source, contents⟩] := by
  have nothing := here_remove d source empty
  rw [here] at nothing
  rw [put, here, List.filterMap_append, nothing]
  rfl

end Disk

/-! Runs of steps, each with the disk that it leaves. -/

theorem run_bind {E S A B : Type} (x : ExceptT E (StateM S) A)
    (next : A → ExceptT E (StateM S) B) (s : S) :
    (x >>= next).run.run s = match x.run.run s with
      | (.ok a, s') => (next a).run.run s'
      | (.error e, s') => (.error e, s') := by
  rw [ExceptT.run_bind, StateT.run_bind]
  cases x.run.run s with
  | mk result s' => cases result <;> rfl

theorem run_adapt {E F S A : Type} (x : ExceptT E (StateM S) A) (f : E → F) (s : S) :
    (x.adapt f).run.run s = match x.run.run s with
      | (.ok a, s') => (.ok a, s')
      | (.error e, s') => (.error (f e), s') := by
  rw [ExceptT.run_adapt, StateT.run_map]
  cases x.run.run s with
  | mk result s' => cases result <;> rfl

namespace FileSystem

variable (system : FileSystem) (d : Disk)

theorem run_permit (fault : Option SystemFault) (change : Disk → Disk) :
    (permit fault change).run.run d = match fault with
      | none => (.ok (), change d)
      | some cause => (.error cause, d) := by
  cases fault <;> rfl

theorem run_create (path : String) :
    (system.steps.create path).run.run d = match system.create path with
      | none => (.ok (system.locate path), d.put (system.locate path) [])
      | some cause => (.error cause, d) := by
  simp only [steps, run_bind, run_permit]
  cases system.create path <;> rfl

theorem run_write (location : Location) (contents : List UInt8) :
    (system.steps.write location contents).run.run d = match system.write location contents with
      | none => (.ok (), d.put location contents)
      | some (written, cause) => (.error cause, d.put location (contents.take written)) := by
  simp only [steps]
  cases system.write location contents <;> rfl

theorem run_sync (location : Location) :
    (system.steps.sync location).run.run d = match system.sync location with
      | none => (.ok (), d)
      | some cause => (.error cause, d) :=
  run_permit d _ _

theorem run_rename (source target : String) :
    (system.steps.rename source target).run.run d = match system.rename source target with
      | none => (.ok (), d.move (system.locate source) (system.locate target))
      | some cause => (.error cause, d) :=
  run_permit d _ _

/-- The outcome of saving, by what the system answers to each step. -/
theorem run_save (path : String) (contents : List UInt8) :
    (save system.steps path contents).run.run d =
      let temporary := system.locate (temporaryPath path)
      match system.create (temporaryPath path) with
      | some cause => (.error ⟨createStep path, cause⟩, d)
      | none => match system.write temporary contents with
        | some (written, cause) =>
            (.error ⟨none, cause⟩, d.put temporary (contents.take written))
        | none => match system.sync temporary with
          | some cause => (.error ⟨none, cause⟩, d.put temporary contents)
          | none => match system.rename (temporaryPath path) path with
            | some cause => (.error ⟨renameStep path, cause⟩, d.put temporary contents)
            | none => (.ok (), (d.remove temporary).put (system.locate path) contents) := by
  simp only [save, run_bind, run_adapt, run_create]
  cases system.create (temporaryPath path) with
  | some cause => rfl
  | none =>
      simp only [run_write, Disk.put_put]
      cases system.write (system.locate (temporaryPath path)) contents with
      | some interrupted => rfl
      | none =>
          simp only [run_sync]
          cases system.sync (system.locate (temporaryPath path)) with
          | some cause => rfl
          | none =>
              simp only [run_rename, Disk.put_move]
              cases system.rename (temporaryPath path) path <;> rfl

/-- A step after the first one fails. -/
def Interrupts (path : String) (contents : List UInt8) : Prop :=
  system.write (system.locate (temporaryPath path)) contents ≠ none ∨
    system.sync (system.locate (temporaryPath path)) ≠ none ∨
    system.rename (temporaryPath path) path ≠ none

section Outcomes

variable (path : String) (contents : List UInt8)

theorem save_uncreated (refused : system.create (temporaryPath path) ≠ none) :
    ∃ failure, (save system.steps path contents).run.run d = (.error failure, d) := by
  obtain ⟨cause, answer⟩ := Option.ne_none_iff_exists'.mp refused
  rw [run_save, answer]
  exact ⟨_, rfl⟩

variable (created : system.create (temporaryPath path) = none)

include created

theorem save_interrupted (interrupted : system.Interrupts path contents) :
    ∃ failure left, left <+: contents ∧
      (system.write (system.locate (temporaryPath path)) contents = none → left = contents) ∧
      (save system.steps path contents).run.run d =
        (.error failure, d.put (system.locate (temporaryPath path)) left) := by
  simp only [run_save, created]
  cases written : system.write (system.locate (temporaryPath path)) contents with
  | some fault => exact ⟨_, _, List.take_prefix _ _, nofun, rfl⟩
  | none =>
      cases synced : system.sync (system.locate (temporaryPath path)) with
      | some cause => exact ⟨_, contents, List.prefix_rfl, fun _ => rfl, rfl⟩
      | none =>
          cases renamed : system.rename (temporaryPath path) path with
          | some cause => exact ⟨_, contents, List.prefix_rfl, fun _ => rfl, rfl⟩
          | none => simp [Interrupts, written, synced, renamed] at interrupted

theorem save_completed (completed : ¬ system.Interrupts path contents) :
    (save system.steps path contents).run.run d =
      (.ok (), (d.remove (system.locate (temporaryPath path))).put (system.locate path)
        contents) := by
  simp only [Interrupts, not_or, Decidable.not_not] at completed
  obtain ⟨written, synced, renamed⟩ := completed
  simp only [run_save, created, written, synced, renamed]

end Outcomes

end FileSystem

end SenderAudit.CommandLine
