import SenderAudit.Text.Fields
import SenderAudit.Text.Utf8

/-!
Saving a report to a file. It is written under a temporary name first and then renamed, so
that no one sees half a report. Saving ends at the first of its four steps that fails, and
what was written until then stays.

What the system answers to each step is given, and so is where a path leads, in the working
directory or outside of it. Saving takes each step once, so an answer need not tell what has
gone before. Files that no step touches stay as they are.
-/
namespace SenderAudit.CommandLine

structure SystemFault where
  message : String
  deriving DecidableEq, Repr

inductive Location where
  | here (name : String)
  | away (place : String)
  deriving DecidableEq, Repr

structure File where
  location : Location
  contents : List UInt8
  deriving DecidableEq, Repr

abbrev Disk := List File

namespace Disk

def remove (d : Disk) (location : Location) : Disk :=
  d.filter (·.location != location)

def put (d : Disk) (location : Location) (contents : List UInt8) : Disk :=
  d.remove location ++ [⟨location, contents⟩]

def move (d : Disk) (source target : Location) : Disk :=
  match d.find? (·.location == source) with
  | some file => (d.remove source).put target file.contents
  | none => d

/-- The files of the working directory, by their names. -/
def here (d : Disk) : List (String × List UInt8) :=
  d.filterMap fun file => match file.location with
    | .here name => some (name, file.contents)
    | .away _ => none

end Disk

/-- A step that failed, if it says which one it is, and why. -/
structure SaveFailure where
  step : Option String
  cause : SystemFault
  deriving DecidableEq, Repr

/-- The steps of saving: a file is created, written and synced, and then it is renamed. -/
structure Steps (m : Type → Type) (Handle : Type) where
  create : String → ExceptT SystemFault m Handle
  write : Handle → List UInt8 → ExceptT SystemFault m Unit
  sync : Handle → ExceptT SystemFault m Unit
  rename : (source target : String) → ExceptT SystemFault m Unit

def temporaryPath (path : String) : String :=
  path ++ ".tmp"

def createStep (path : String) : String :=
  s!"create {temporaryPath path}"

def renameStep (path : String) : String :=
  s!"rename {temporaryPath path} -> {path}"

def save {m : Type → Type} [Monad m] {Handle : Type} (steps : Steps m Handle) (path : String)
    (contents : List UInt8) : ExceptT SaveFailure m Unit := do
  let temporary := temporaryPath path
  let file ← (steps.create temporary).adapt (⟨createStep path, ·⟩)
  (steps.write file contents).adapt (⟨none, ·⟩)
  (steps.sync file).adapt (⟨none, ·⟩)
  (steps.rename temporary path).adapt (⟨renameStep path, ·⟩)

/-- What a system answers, and where a path leads when its file has just been created or
renamed. A write that fails tells how many octets went before. -/
structure FileSystem where
  locate : String → Location
  create : String → Option SystemFault
  write : Location → List UInt8 → Option (Nat × SystemFault)
  sync : Location → Option SystemFault
  rename : (source target : String) → Option SystemFault

namespace FileSystem

def permit (fault : Option SystemFault) (change : Disk → Disk) :
    ExceptT SystemFault (StateM Disk) Unit :=
  match fault with
  | none => modify change
  | some cause => throw cause

def steps (system : FileSystem) : Steps (StateM Disk) Location where
  create path := do
    let location := system.locate path
    permit (system.create path) (·.put location [])
    return location
  write location contents :=
    match system.write location contents with
    | none => modify (·.put location contents)
    | some (written, cause) => do
        modify (·.put location (contents.take written))
        throw cause
  sync location := permit (system.sync location) id
  rename source target :=
    permit (system.rename source target) (·.move (system.locate source) (system.locate target))

/-! A working directory in which there are no other directories. -/

def notFound : SystemFault := ⟨"No such file or directory (os error 2)"⟩
def busy : SystemFault := ⟨"Device or resource busy (os error 16)"⟩
def isDirectory : SystemFault := ⟨"Is a directory (os error 21)"⟩
def nameTooLong : SystemFault := ⟨"File name too long (os error 36)"⟩

def maxNameLength : Nat := 255
def maxPathLength : Nat := 4095

/-- Whether these steps stay in the directory, if there is anything they lead to. -/
def stays : List (List Char) → Except SystemFault Bool
  | [] => .ok true
  | step :: rest =>
      if step = [] ∨ step = ['.'] then stays rest
      else if step = ['.', '.'] then .ok false
      else if Utf8.length step > maxNameLength then .error nameTooLong
      else .error notFound

def lastStep (path : String) : List Char :=
  (Text.fields '/' path.toList).getLastD []

/-- Whether a path stays in the directory, its last step left out. -/
def isInside (path : String) : Except SystemFault Bool :=
  let s := path.toList
  if s.isEmpty then .error notFound
  else if Utf8.length s > maxPathLength then .error nameTooLong
  else if s.head? = some '/' then .ok false
  else stays (Text.fields '/' s).dropLast

def nameFault (ifDirectory : SystemFault) (name : List Char) : Option SystemFault :=
  if name = [] ∨ name = ['.'] ∨ name = ['.', '.'] then some ifDirectory
  else if Utf8.length name > maxNameLength then some nameTooLong
  else none

/-- Paths that leave the directory, and all that is written, are for another system. -/
def flat (outside : FileSystem) : FileSystem where
  locate path :=
    match isInside path with
    | .ok true => .here (String.ofList (lastStep path))
    | _ => outside.locate path
  create path :=
    match isInside path with
    | .ok true => nameFault isDirectory (lastStep path)
    | .ok false => outside.create path
    | .error fault => some fault
  write := outside.write
  sync := outside.sync
  rename source target :=
    match isInside target with
    | .ok true => nameFault busy (lastStep target)
    | .ok false => outside.rename source target
    | .error fault => some fault

/-- Refuses nothing, and knows no working directory. -/
def willing : FileSystem where
  locate := .away
  create _ := none
  write _ _ := none
  sync _ := none
  rename _ _ := none

end FileSystem

end SenderAudit.CommandLine
