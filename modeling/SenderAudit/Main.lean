import SenderAudit.CommandLine.Run

/-!
The program. All that it does is worked out by `CommandLine.run`; what is left is to read
the input, to print, and to save a file. It has no transport for queries: each exchange is
lost, as on a host without a network.
-/
namespace SenderAudit.Main

open CommandLine

def noServer : Doh.Server := fun _ => .lost

/-- The system's own words for a failure. -/
def systemMessage : IO.Error → String
  | .noFileOrDirectory _ code details
  | .permissionDenied _ code details
  | .invalidArgument _ code details
  | .resourceExhausted _ code details
  | .inappropriateType _ code details
  | .alreadyExists _ code details => s!"{details} (os error {code})"
  | .resourceBusy code details
  | .unsatisfiedConstraints code details
  | .hardwareFault code details
  | .otherError code details => s!"{details} (os error {code})"
  | error => toString error

def attempt {α : Type} (action : IO α) : ExceptT SystemFault IO α :=
  ExceptT.mk do
    try
      return .ok (← action)
    catch error => return .error ⟨systemMessage error⟩

def steps : Steps IO IO.FS.Handle where
  create path := attempt (IO.FS.Handle.mk path .write)
  write file contents := attempt (file.write ⟨contents.toArray⟩)
  sync file := attempt file.flush
  rename source target := attempt (IO.FS.rename source target)

def perform : Action → IO UInt32
  | .print text status => do
      IO.print text
      return status.toUInt32
  | .fail report => do
      IO.eprint report
      return 1
  | .misuse => do
      IO.eprint (line s!"{programName}: these arguments make no sense; try --help")
      return 2
  | .save path contents status => do
      match ← (save steps path (Utf8.encode contents.toList)).run with
      | .ok () => return status.toUInt32
      | .error failure => do
          IO.eprint failure.report
          return 1

end SenderAudit.Main

open SenderAudit in
def main (args : List String) : IO UInt32 := do
  let input ←
    if CommandLine.readsInput args then (← IO.getStdin).readBinToEnd else pure ByteArray.empty
  Main.perform (CommandLine.run Main.noServer args input.toList).action
